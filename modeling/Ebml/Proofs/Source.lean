import Ebml.Source

namespace Ebml.Source

def holding (bytes : Bytes) (taken : Nat) : Source := { ofBytes bytes with taken := taken }

theorem ofBytes_eq (bytes : Bytes) : ofBytes bytes = holding bytes 0 := by
  cases bytes <;> rfl

theorem take_holding (wanted : Nat) (bytes : Bytes) (taken : Nat) :
    (holding bytes taken).take wanted =
      (bytes.take wanted, none, holding (bytes.drop wanted) (taken + (bytes.take wanted).length)) := by
  cases bytes with
  | nil => simp [holding, ofBytes, take, Delivery.collect]
  | cons first more =>
    cases wanted with
    | zero => simp [holding, ofBytes, take, Delivery.collect]
    | succ wanted =>
      cases cut : more.drop wanted with
      | nil =>
        have all : more.take wanted = more := List.take_of_length_le (List.drop_eq_nil_iff.mp cut)
        simp [holding, ofBytes, take, Delivery.collect, cut, all]
      | cons next left => simp [holding, ofBytes, take, Delivery.collect, cut]

theorem collect_length_le (wanted : Nat) (deliveries : List Delivery) :
    (Delivery.collect wanted deliveries).1.length ≤ wanted := by
  fun_induction Delivery.collect wanted deliveries with
  | case1 => exact Nat.zero_le _
  | case2 => exact Nat.zero_le _
  | case3 wanted rest positive ih => exact ih
  | case4 => exact Nat.zero_le _
  | case5 wanted rest positive first more next left cut =>
    simp only [List.length_cons, List.length_take]
    omega
  | case6 wanted rest positive first more cut bytes failure? after same ih =>
    have short := List.drop_eq_nil_iff.mp cut
    rw [same] at ih
    simp only [List.length_cons, List.length_append, List.cons_append] at ih ⊢
    omega

theorem take_length_le (wanted : Nat) (source : Source) : (source.take wanted).1.length ≤ wanted :=
  collect_length_le wanted source.deliveries

theorem take_zero (source : Source) : source.take 0 = ([], none, source) := by
  have collected : Delivery.collect 0 source.deliveries = ([], none, source.deliveries) := by
    cases source.deliveries <;> rfl
  simp [take, collected]

end Ebml.Source
