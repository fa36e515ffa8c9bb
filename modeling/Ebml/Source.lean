import Ebml.Bytes

namespace Ebml

-- What one call to a byte source hands over. A call may be interrupted, which means
-- nothing but that it is to be made again, or fail for a reason of the source's own.
inductive Delivery where
  | piece (first : UInt8) (more : Bytes)
  | interrupted
  | failed (reason : String)
deriving DecidableEq, Repr

-- The deliveries still to come, and how many bytes have been taken. After the last
-- delivery the source is at its end, or broken for good.
structure Source where
  deliveries : List Delivery
  broken? : Option String
  taken : Nat
deriving DecidableEq, Repr

namespace Delivery

def size : Delivery → Nat
  | piece _ more => more.length + 1
  | interrupted => 0
  | failed _ => 0

def totalSize : List Delivery → Nat
  | [] => 0
  | delivery :: rest => delivery.size + totalSize rest

def pieces (size : Nat) : Bytes → List Delivery
  | [] => []
  | first :: more => piece first (more.take (size - 1)) :: pieces size (more.drop (size - 1))
termination_by bytes => bytes.length

def interruptEach (deliveries : List Delivery) : List Delivery :=
  deliveries.flatMap fun delivery => [interrupted, delivery]

-- Takes bytes until there are as many as wanted, a failure, or no delivery left. What a
-- piece holds beyond the wanted bytes stays for the next time.
def collect (wanted : Nat) : List Delivery → Bytes × Option String × List Delivery
  | [] => ([], none, [])
  | delivery :: rest =>
    if wanted = 0 then ([], none, delivery :: rest)
    else match delivery with
    | interrupted => collect wanted rest
    | failed reason => ([], some reason, rest)
    | piece first more =>
      match more.drop (wanted - 1) with
      | next :: left => (first :: more.take (wanted - 1), none, piece next left :: rest)
      | [] =>
        let (bytes, failure?, rest) := collect (wanted - (more.length + 1)) rest
        (first :: more ++ bytes, failure?, rest)

theorem collect_size (wanted : Nat) (deliveries : List Delivery) :
    (collect wanted deliveries).1.length + totalSize (collect wanted deliveries).2.2 =
      totalSize deliveries := by
  fun_induction collect wanted deliveries with
  | case1 => rfl
  | case2 => simp
  | case3 wanted rest _ ih => simpa [totalSize, size] using ih
  | case4 => simp [totalSize, size]
  | case5 wanted rest positive first more next left cut =>
    have length := congrArg List.length cut
    simp only [List.length_drop, List.length_cons] at length
    simp only [totalSize, size, List.length_cons, List.length_take]
    omega
  | case6 wanted rest positive first more cut bytes failure? after same ih =>
    rw [same] at ih
    simp only [totalSize, size, List.length_cons, List.length_append, List.cons_append] at ih ⊢
    omega

end Delivery

namespace Source

def ofBytes : Bytes → Source
  | [] => ⟨[], none, 0⟩
  | first :: more => ⟨[.piece first more], none, 0⟩

def pending (source : Source) : Nat := Delivery.totalSize source.deliveries

-- Fewer bytes than wanted come only with a failure or at the end of the source.
-- Bytes that came before a failure are gone from the source.
def take (wanted : Nat) (source : Source) : Bytes × Option String × Source :=
  let (bytes, failure?, rest) := Delivery.collect wanted source.deliveries
  let failure? := failure?.or (if bytes.length < wanted then source.broken? else none)
  (bytes, failure?, { source with deliveries := rest, taken := source.taken + bytes.length })

theorem take_pending (wanted : Nat) (source : Source) :
    (source.take wanted).1.length + (source.take wanted).2.2.pending = source.pending :=
  Delivery.collect_size wanted source.deliveries

end Source

end Ebml
