/-
Graft/Proofs/Text/InBounds.lean

No slice is out of bounds.

Texts are sliced in four places: where names are read, where select expressions are
read, where a word is put in the singular, and where a long statement is cut short.
The offsets come from scans over characters of one to four bytes, and from adding one
to such an offset or taking one or two from a length.

Each of these goes through with every slice between offsets that bound one, for every
text, and the result is what it is without slices (`slices_in_bounds`).  The reader of
relations takes one off the length of an item that ends in a closing parenthesis; its
first parenthesis comes before that one.
-/
import Graft.Proofs.Ident.Slices
import Graft.Proofs.Monitor.Truncation
import Graft.Proofs.Relation.Singular
import Graft.Proofs.Selection.Slices

namespace Graft.Text

/-- The last character of an item that closes a relation is a slice of one byte. -/
theorem slice?_closing {item : List Char} (hclose : item.getLast? = some ')') :
    slice? item (byteLength item - 1) (byteLength item) = some [')'] := by
  obtain ⟨front, rfl⟩ := List.getLast?_eq_some_iff.1 hclose
  have hslice := slice?_append front [')'] []
  have hstart : byteLength (front ++ [')']) - 1 = byteLength front := by
    rw [byteLength_append]
    rfl
  rwa [List.append_nil, ← hstart] at hslice

/-- **No slice is out of bounds.**  Wherever a text is sliced, there is a result, so the offsets of
each slice are in order, within the text, and at boundaries of characters (`Bounds`); and it is the
result that the text has without slices.  The first parenthesis of a relation comes before the one
that closes it at its end. -/
theorem slices_in_bounds (s : String) (max : Nat) :
    (Ident.partsBySlices s).Gives ((Ident.parse s).map Ident.parts) ∧
    (Selection.parseBySlices s).Gives (Selection.parse s) ∧
    (∀ item opening, offset? '(' item = some opening → item.getLast? = some ')' →
      opening < byteLength item - 1 ∧
        slice? item (byteLength item - 1) (byteLength item) = some [')']) ∧
    singularBySlices s.toList = some (singularize s).toList ∧
    truncateBySlices max s.toList = some (takeBytes max s.toList) := by
  refine ⟨Ident.gives_partsBySlices s, Selection.gives_parseBySlices s, ?_, ?_,
    truncateBySlices_eq max s.toList⟩
  · intro item opening hopen hclose
    exact ⟨Selection.opening_lt_closing hopen hclose, slice?_closing hclose⟩
  · rw [singularBySlices_eq, singularize, String.toList_ofList]

end Graft.Text
