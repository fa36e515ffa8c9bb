import Ebml.Proofs.Cursor.Lockstep

namespace Ebml

namespace Delivery

-- However bytes are delivered, they are taken in order and as many as wanted, and nothing
-- that comes after them is looked at.
variable {wanted : Nat} {deliveries : List Delivery}

def ready : List Delivery → Bytes
  | [] => []
  | piece first more :: rest => first :: more ++ ready rest
  | interrupted :: rest => ready rest
  | failed _ :: _ => []

def isFailure : Delivery → Bool
  | failed _ => true
  | _ => false

def Unfailing (deliveries : List Delivery) : Prop :=
  ∀ delivery ∈ deliveries, delivery.isFailure = false

instance (deliveries : List Delivery) : Decidable (Unfailing deliveries) :=
  inferInstanceAs (Decidable (∀ delivery ∈ deliveries, delivery.isFailure = false))

theorem Unfailing.rest {delivery : Delivery} (all : Unfailing (delivery :: deliveries)) :
    Unfailing deliveries :=
  (List.forall_mem_cons.mp all).2

theorem collect_ready (enough : wanted ≤ (ready deliveries).length ∨ Unfailing deliveries) :
    ∃ rest, collect wanted deliveries = ((ready deliveries).take wanted, none, rest) ∧
      ready rest = (ready deliveries).drop wanted ∧ (Unfailing deliveries → Unfailing rest) := by
  fun_induction collect wanted deliveries with
  | case1 => exact ⟨[], by simp [ready], by simp [ready], id⟩
  | case2 delivery rest => exact ⟨delivery :: rest, by simp, by simp, id⟩
  | case3 wanted rest positive ih =>
    obtain ⟨left, collected, after, unfailing⟩ := ih (enough.imp id Unfailing.rest)
    exact ⟨left, collected, after, fun all => unfailing all.rest⟩
  | case4 wanted rest positive reason =>
    rcases enough with none | all
    · exact absurd (Nat.le_zero.mp none) positive
    · cases all _ List.mem_cons_self
  | case5 wanted rest positive first more next left cut =>
    obtain ⟨wanted, rfl⟩ := Nat.exists_eq_succ_of_ne_zero positive
    rw [Nat.succ_eq_add_one, Nat.add_sub_cancel] at cut ⊢
    have within : wanted ≤ more.length := by
      by_contra beyond
      rw [List.drop_eq_nil_of_le (by omega)] at cut
      cases cut
    refine ⟨piece next left :: rest, ?_, ?_, ?_⟩
    · rw [ready, List.cons_append, List.take_succ_cons, List.take_append_of_le_length within]
    · rw [ready, ready, List.cons_append, List.cons_append, List.drop_succ_cons,
        List.drop_append_of_le_length within, cut, List.cons_append]
    · intro all
      exact List.forall_mem_cons.mpr ⟨rfl, all.rest⟩
  | case6 wanted rest positive first more cut bytes failure? after same ih =>
    have whole : more.length + 1 ≤ wanted := by
      have ended := List.drop_eq_nil_iff.mp cut
      omega
    have ready_eq : ready (piece first more :: rest) = (first :: more) ++ ready rest := rfl
    have long : (first :: more).length ≤ wanted := whole
    obtain ⟨left, collected, remain, unfailing⟩ := ih (by
      rcases enough with enough | all
      · left
        rw [ready_eq, List.length_append, List.length_cons] at enough
        omega
      · exact .inr all.rest)
    rw [same] at collected
    cases collected
    refine ⟨after, ?_, ?_, fun all => unfailing all.rest⟩
    · rw [ready_eq, List.take_append, List.take_of_length_le long]
      rfl
    · rw [ready_eq, List.drop_append, List.drop_eq_nil_of_le long, remain]
      rfl

end Delivery

namespace Source

variable {source : Source} {known bytes : Bytes} {wanted : Nat}

theorem take_ready
    (enough : wanted ≤ (Delivery.ready source.deliveries).length ∨
      Delivery.Unfailing source.deliveries ∧ source.broken? = none) :
    ∃ rest, source.take wanted = ((Delivery.ready source.deliveries).take wanted, none,
        { source with
          deliveries := rest
          taken := source.taken + ((Delivery.ready source.deliveries).take wanted).length }) ∧
      Delivery.ready rest = (Delivery.ready source.deliveries).drop wanted ∧
      (Delivery.Unfailing source.deliveries → Delivery.Unfailing rest) := by
  obtain ⟨rest, collected, after, unfailing⟩ := Delivery.collect_ready (enough.imp id And.left)
  have sound : (none : Option String).or
      (if ((Delivery.ready source.deliveries).take wanted).length < wanted then source.broken?
        else none) = none := by
    rcases enough with enough | ⟨_, whole⟩
    · rw [List.length_take_of_le enough, if_neg (Nat.lt_irrefl _)]
      rfl
    · rw [whole, ite_self]
      rfl
  refine ⟨rest, ?_, after, unfailing⟩
  unfold take
  rw [collected]
  dsimp only
  rw [sound]

def Begins (known : Bytes) (source : Source) : Prop := known <+: Delivery.ready source.deliveries

-- A source that hands over just these bytes, in any pieces and with any interruptions.
structure Delivers (bytes : Bytes) (source : Source) : Prop where
  ready : Delivery.ready source.deliveries = bytes
  unfailing : Delivery.Unfailing source.deliveries
  sound : source.broken? = none

def sameBytes : Matching where
  alike one other := ∃ bytes, one = .holding bytes other.taken ∧ other.Delivers bytes
  passed _ := False
  position := by
    rintro one other ⟨bytes, rfl, _⟩
    rfl
  take := by
    rintro one other ⟨bytes, rfl, rfl, unfailing, sound⟩ wanted
    obtain ⟨rest, taken, after, still⟩ := @take_ready other wanted (.inr ⟨unfailing, sound⟩)
    rw [take_holding]
    exact .inr ⟨_, taken, _, rfl, after, still unfailing, sound⟩
  stays gone _ := gone

def sameUpTo (bound : Nat) (ahead : Bytes) (more : ahead ≠ []) : Matching where
  alike one other := ∃ known, one = .holding (known ++ ahead) other.taken ∧
    other.taken + known.length = bound ∧ other.Begins known
  passed one := bound < one.taken
  position := by
    rintro one other ⟨known, rfl, _, _⟩
    rfl
  take := by
    rintro one other ⟨known, rfl, total, begins⟩ wanted
    rw [take_holding]
    rcases Nat.lt_or_ge known.length wanted with beyond | within
    · left
      have positive := List.length_pos_iff.mpr more
      change bound < other.taken + ((known ++ ahead).take wanted).length
      rw [List.length_take, List.length_append]
      omega
    · right
      have enough : wanted ≤ (Delivery.ready other.deliveries).length :=
        Nat.le_trans within begins.length_le
      obtain ⟨rest, taken, after, _⟩ := take_ready (.inl enough)
      obtain ⟨later, same⟩ := begins
      have shared : (Delivery.ready other.deliveries).take wanted = (known ++ ahead).take wanted := by
        rw [← same, List.take_append_of_le_length within, List.take_append_of_le_length within]
      rw [shared] at taken
      refine ⟨_, taken, known.drop wanted, ?_, ?_, later, ?_⟩
      · rw [List.drop_append_of_le_length within]
      · rw [List.take_append_of_le_length within, List.length_take_of_le within, List.length_drop]
        dsimp only
        omega
      · dsimp only
        rw [after, ← same, List.drop_append_of_le_length within]
  stays := by
    intro one gone wanted
    exact Nat.lt_of_lt_of_le gone (Nat.le_add_right _ _)

end Source

namespace Cursor

-- In whatever pieces a source hands over its bytes, and however often it is interrupted, every
-- step answers as it does where all the bytes are there at once.
theorem run_independent_of_delivery (bytes : Bytes) (limits : Limits)
    (operations : List Operation) (source : Source) (fresh : source.taken = 0)
    (delivers : source.Delivers bytes) :
    (run operations (ofSource source limits)).1 =
      (run operations (ofSource (.ofBytes bytes) limits)).1 := by
  have same : Source.sameBytes.alike (ofSource (.ofBytes bytes) limits).source source := by
    refine ⟨bytes, ?_, delivers⟩
    rw [fresh]
    exact Source.ofBytes_eq bytes
  rcases run_inStep operations same with gone | equal
  · exact gone.elim
  · exact equal

theorem run_of_parts_and_interruptions :
    let document : Bytes := [0x81, 0x40, 0x02, 0xAA, 0xBB]
    let operations : List Operation := [.advance, .readBinary, .advance]
    let source : Source := ⟨[.piece 0x81 [0x40], .interrupted, .piece 0x02 [0xAA], .interrupted,
      .interrupted, .piece 0xBB []], none, 0⟩
    source.taken = 0 ∧ source.Delivers document ∧
      (run operations (ofSource source default)).1 =
        (run operations (ofSource (.ofBytes document) default)).1 := by
  intro document operations source
  have delivers : source.Delivers document := ⟨by decide, by decide, rfl⟩
  exact ⟨rfl, delivers, run_independent_of_delivery document default operations source rfl delivers⟩

-- As long as a run has taken none of the bytes ahead, it has not depended on them: they may
-- be others, or none, or a failure may stand in their place.
theorem run_independent_of_bytes_ahead (known ahead : Bytes) (more : ahead ≠ [])
    (limits : Limits) (operations : List Operation) (count : Nat)
    (within : (run (operations.take count) (ofSource (.ofBytes (known ++ ahead)) limits)).2.position ≤
      known.length)
    (source : Source) (fresh : source.taken = 0) (begins : source.Begins known) :
    (run (operations.take count) (ofSource source limits)).1 =
      (run (operations.take count) (ofSource (.ofBytes (known ++ ahead)) limits)).1 := by
  have same : (Source.sameUpTo known.length ahead more).alike
      (ofSource (.ofBytes (known ++ ahead)) limits).source source := by
    refine ⟨known, ?_, ?_, begins⟩
    · rw [fresh]
      exact Source.ofBytes_eq _
    · rw [fresh, Nat.zero_add]
  rcases run_inStep (operations.take count) same with gone | equal
  · exact absurd within (Nat.not_le.mpr gone)
  · exact equal

theorem run_up_to_failure :
    let known : Bytes := [0x81, 0x82, 0xAA, 0xBB]
    let operations : List Operation := [.advance, .readBinary, .advance]
    let source : Source := ⟨[.piece 0x81 [0x82, 0xAA], .interrupted, .piece 0xBB []],
      some "unplugged", 0⟩
    (run (operations.take 2) (ofSource (.ofBytes (known ++ [0x83, 0x80])) default)).2.position ≤
        known.length ∧
      source.taken = 0 ∧ source.Begins known ∧
      (run (operations.take 2) (ofSource source default)).1 =
        (run (operations.take 2) (ofSource (.ofBytes (known ++ [0x83, 0x80])) default)).1 := by
  intro known operations source
  have within : (run (operations.take 2)
      (ofSource (.ofBytes (known ++ [0x83, 0x80])) default)).2.position ≤ known.length := by decide
  have begins : source.Begins known := ⟨[], rfl⟩
  exact ⟨within, rfl, begins, run_independent_of_bytes_ahead known [0x83, 0x80] (by decide) default
    operations 2 within source rfl begins⟩

end Cursor

end Ebml
