/-
Graft/Proofs/Storage/ReadBack.lean

Storing a value and reading it back.

`ReadsBack` says rule by rule what a stored value is read back as: itself, as
long as the engine has values of its kind, and else the number or the text that
it is stored as.  What is read back is stored as it was before
(`ofValue_readBack`), so a key that is read from one table finds its row in
another, however often it goes back and forth.
-/
import Graft.Proofs.Number.Rounding
import Graft.Proofs.Text.Encoding
import Graft.Storage

namespace Graft.StoredValue

/-! ### Reading back -/

/-- `ReadsBack v w`: a value `v` that is stored is read back as `w`. -/
inductive ReadsBack : Value → Value → Prop
  | null : ReadsBack .null .null
  | str (s : String) : ReadsBack (.str s) (.str s)
  /-- An integer of 64 bits with a sign. -/
  | int (n : Int) (fits : FitsWord n) (signed : n ≤ Int64.maxValue.toInt) :
    ReadsBack (.num (.int n fits)) (.num (.int n fits))
  /-- A binary64 number, with the sign of a zero. -/
  | float (x : Binary64) : ReadsBack (.num (.float x)) (.num (.float x))
  | yes : ReadsBack (.bool true) (.num (.int 1 (by decide)))
  | no : ReadsBack (.bool false) (.num (.int 0 (by decide)))
  /-- An integer that is too large is read as the number nearest to it. -/
  | large (n : Int) (fits : FitsWord n) (unsigned : Int64.maxValue.toInt < n) (x : Binary64)
    (nearest : x.IsNearest n) : ReadsBack (.num (.int n fits)) (.num (.float x))
  | arr (items : List Value) : ReadsBack (.arr items) (.str (Value.arr items).text)
  | obj (fields : List (String × Value)) : ReadsBack (.obj fields) (.str (Value.obj fields).text)

theorem toValue_ofText (s : String) : (ofText s).toValue = .str s := by
  rw [ofText, toValue, Text.decodeLossy_encode, String.ofList_toList]

/-- An integer of 64 bits with a sign is read as it was stored. -/
theorem toValue_ofInt {n : Int} (fits : FitsWord n) (h : n ≤ Int64.maxValue.toInt) :
    (ofInt n fits).toValue = .num (.int n fits) := by
  have hn : (Int64.ofInt n).toInt = n := by
    have hlow := fits.1
    rw [Int64.toInt_minValue] at hlow
    rw [Int64.toInt_maxValue] at h
    exact Int64.toInt_ofInt_of_le (by omega) (by omega)
  rw [ofInt, if_pos h, toValue]
  congr

theorem ofInt_of_lt {n : Int} (fits : FitsWord n) (h : Int64.maxValue.toInt < n) :
    ofInt n fits = .real (.ofInt n fits.natAbs_lt) :=
  if_neg (Int.not_le.2 h)

theorem readsBack_ofValue (v : Value) : ReadsBack v (ofValue v).toValue := by
  cases v with
  | null => exact .null
  | bool b => cases b with
    | false => exact .no
    | true => exact .yes
  | num n => cases n with
    | int n fits =>
      rw [ofValue]
      -- Beyond the signed range an integer is stored as the nearest float.
      rcases Int.lt_or_le Int64.maxValue.toInt n with hlarge | hsigned
      · rw [ofInt_of_lt fits hlarge]
        exact .large n fits hlarge _ (Binary64.isNearest_ofInt n fits.natAbs_lt)
      · rw [toValue_ofInt fits hsigned]
        exact .int n fits hsigned
    | float x => exact .float x
  | str s =>
    rw [ofValue, toValue_ofText]
    exact .str s
  | arr items =>
    rw [ofValue, toValue_ofText]
    exact .arr items
  | obj fields =>
    rw [ofValue, toValue_ofText]
    exact .obj fields

/-- A stored value that came from a value is stored again as it is. -/
theorem ofValue_toValue_ofValue (v : Value) : ofValue (ofValue v).toValue = ofValue v := by
  cases v with
  | null => rfl
  | bool b => cases b with
    | false => rfl
    | true => rfl
  | num n => cases n with
    | int n fits =>
      rw [ofValue]
      rcases Int.lt_or_le Int64.maxValue.toInt n with hlarge | hsigned
      · rw [ofInt_of_lt fits hlarge]
        rfl
      · rw [toValue_ofInt fits hsigned, ofValue]
    | float x => rfl
  | str s => rw [ofValue, toValue_ofText, ofValue]
  | arr items => rw [ofValue, toValue_ofText, ofValue]
  | obj fields => rw [ofValue, toValue_ofText, ofValue]

/-- **What is read back is stored as it was before**, so that reading it back again changes nothing;
and it is the value itself, or the number or the text that stands for it. -/
theorem ofValue_readBack (v : Value) :
    ofValue (ofValue v).toValue = ofValue v ∧
      (ofValue (ofValue v).toValue).toValue = (ofValue v).toValue ∧
      ReadsBack v (ofValue v).toValue := by
  have hagain := ofValue_toValue_ofValue v
  exact ⟨hagain, congrArg toValue hagain, readsBack_ofValue v⟩

end Graft.StoredValue
