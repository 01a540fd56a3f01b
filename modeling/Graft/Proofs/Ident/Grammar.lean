/-
Graft/Proofs/Ident/Grammar.lean

Names as they are written.

Reading a name loses nothing but the blanks around it: the identifier that a
text is read as stands in a statement as that text (`Ident.chars_of_parse`).
Each of the steps is undone by writing: the segments joined by dots are the
name, and a part is written as the segment that it was read from.

Outside its double quotes a name has nothing but the characters of bare parts
and the dots between parts (`Ident.exists_outside?`).
-/
import Graft.Ident
import Graft.Proofs.Text.Quotes

namespace Graft

/-! ### Reading and writing -/

/-- The segments joined by dots are the text. -/
theorem intercalate_segments? {inside : Bool} {s : List Char} {segs : List (List Char)}
    (h : segments? inside s = some segs) : ['.'].intercalate segs = s := by
  induction s generalizing inside segs with
  | nil =>
    cases inside with
    | true => cases h
    | false =>
      cases h
      rfl
  | cons c rest ih =>
    rw [segments?] at h
    split at h
    · next hdot =>
      obtain ⟨t, ht, rfl⟩ := Option.map_eq_some_iff.1 h
      cases t with
      | nil => exact absurd rfl (segments?_ne_nil ht)
      | cons seg t =>
        rw [List.intercalate_cons_cons, ih ht, hdot.1]
        rfl
    · obtain ⟨t, ht, rfl⟩ := Option.map_eq_some_iff.1 h
      have hrest := ih ht
      -- the character goes before the first segment
      cases t with
      | nil => exact absurd rfl (segments?_ne_nil ht)
      | cons seg t =>
        rw [List.modifyHead_cons, ← hrest]
        cases t with
        | nil => rw [List.intercalate_singleton, List.intercalate_singleton]
        | cons seg' t =>
          rw [List.intercalate_cons_cons, List.intercalate_cons_cons]
          rfl

namespace Part

theorem mem_doubleQuotes_iff {c : Char} {text : List Char} : c ∈ doubleQuotes text ↔ c ∈ text := by
  induction text with
  | nil => rfl
  | cons d text ih =>
    rw [doubleQuotes]
    split
    · next hd => simp [hd, ih]
    · simp [ih]

/-- Doubling the quotes again gives the text back. -/
theorem doubleQuotes_of_undoubleQuotes? {s t : List Char} (h : undoubleQuotes? s = some t) :
    doubleQuotes t = s := by
  fun_induction undoubleQuotes? s generalizing t with
  | case1 =>
    cases h
    rfl
  | case2 rest ih =>
    obtain ⟨u, hu, rfl⟩ := Option.map_eq_some_iff.1 h
    rw [doubleQuotes, if_pos rfl, ih hu]
  | case3 => cases h
  | case4 c rest _ hc ih =>
    obtain ⟨u, hu, rfl⟩ := Option.map_eq_some_iff.1 h
    rw [doubleQuotes, if_neg hc, ih hu]

/-- A quoted part is written as it was read. -/
theorem chars_of_readQuoted {name : String} {inner : List Char} {p : Part}
    (h : readQuoted name inner = .ok p) : p.chars = '"' :: inner := by
  rw [readQuoted] at h
  split at h
  · cases h
  · next hlast =>
    split at h
    · cases h
    · split at h
      · cases h
      · next text htext =>
        cases h
        obtain ⟨body, rfl⟩ := List.getLast?_eq_some_iff.1 (Classical.not_not.1 hlast)
        rw [List.dropLast_concat] at htext
        rw [chars, String.toList_ofList, doubleQuotes_of_undoubleQuotes? htext]

/-- A part is written as the segment that it was read from. -/
theorem chars_of_read {name : String} {segment : List Char} {p : Part}
    (h : read name segment = .ok p) : p.chars = segment := by
  unfold read at h
  split at h
  · cases h
  · exact chars_of_readQuoted h
  · split at h
    · cases h
    · cases h
      rw [chars, String.toList_ofList]

end Part

namespace Ident

/-- **Names are written as they are read.**  What a text is read as stands in a statement as that
text, without the blanks around it. -/
theorem chars_of_parse {raw : String} {i : Ident} (h : parse raw = .ok i) :
    i.chars = Text.trim raw.toList := by
  rw [parse_eq_ok_iff, readParts] at h
  split at h
  · cases h
  · split at h
    · cases h
    · split at h
      · cases h
      · next segs hsegs =>
        have hparts : i.parts.map Part.chars = segs.map id :=
          map_eq_of_mapM_ok (fun _ _ => Part.chars_of_read) h
        rw [chars, hparts, List.map_id, intercalate_segments? hsegs]

theorem sql_of_parse {raw : String} {i : Ident} (h : parse raw = .ok i) :
    i.sql = String.ofList (Text.trim raw.toList) := by
  rw [sql, chars_of_parse h]

/-- The blanks around a name make no difference. -/
theorem readParts_trim (raw : String) :
    readParts (String.ofList (Text.trim raw.toList)) = readParts raw := by
  simp only [readParts, String.toList_ofList, Text.trim_trim]

theorem parse_trim_eq_ok_iff {raw : String} {i : Ident} :
    parse (String.ofList (Text.trim raw.toList)) = .ok i ↔ parse raw = .ok i := by
  rw [parse_eq_ok_iff, parse_eq_ok_iff, readParts_trim]

end Ident

/-! ### Outside double quotes -/

/-- A bare part is made of the characters that it may go on with. -/
theorem Part.isTail_of_isBare {s : List Char} (h : IsBare s) : ∀ c ∈ s, isTail c = true := by
  have hlead : ∀ c, isLead c = true → isTail c = true := by
    intro c hc
    simp only [isLead, isTail, Bool.or_eq_true, Char.isAlphanum] at hc ⊢
    rcases hc with hc | hc
    · exact .inl (.inl hc)
    · exact .inr (.inl hc)
  obtain ⟨hne, hvalid⟩ := h
  cases s with
  | nil => exact absurd rfl hne
  | cons c rest =>
    rw [firstInvalid] at hvalid
    split at hvalid
    · next hc =>
      intro d hd
      rcases List.mem_cons.1 hd with rfl | hd
      · exact hlead d hc
      · simpa using List.find?_eq_none.1 hvalid d hd
    · cases hvalid

/-- Doubled double quotes end no quoted region. -/
theorem outside?_doubleQuotes (text rest : List Char) :
    outside? true (Part.doubleQuotes text ++ '"' :: rest) = outside? false rest := by
  induction text with
  | nil => rw [Part.doubleQuotes, List.nil_append, outside?_quote, Bool.not_true]
  | cons c text ih =>
    rw [Part.doubleQuotes]
    split
    · -- the region is closed and opened again
      rw [List.cons_append, List.cons_append, outside?_quote, outside?_quote, Bool.not_true,
        Bool.not_false, ih]
    · next hc => rw [List.cons_append, outside?_inside hc, ih]

/-- Outside its double quotes, a part has only characters of bare parts. -/
theorem Part.exists_outside? {p : Part} (h : p.WellFormed) :
    ∃ out, outside? false p.chars = some out ∧ ∀ c ∈ out, isTail c = true := by
  cases p with
  | bare text =>
    have htail := isTail_of_isBare h
    refine ⟨text.toList, outside?_of_not_mem fun hquote => ?_, htail⟩
    exact absurd (htail _ hquote) (by decide)
  | quoted text =>
    refine ⟨[], ?_, fun c hc => (List.not_mem_nil hc).elim⟩
    rw [chars, outside?_quote, Bool.not_false, outside?_doubleQuotes]
    rfl

/-- **Outside its double quotes**, a name has only characters of bare parts and dots. -/
theorem Ident.exists_outside? (i : Ident) :
    ∃ out, outside? false i.chars = some out ∧ ∀ c ∈ out, Part.isTail c = true ∨ c = '.' := by
  have hall : ∀ parts : List Part, (∀ p ∈ parts, p.WellFormed) →
      ∃ out, outside? false (['.'].intercalate (parts.map Part.chars)) = some out ∧
        ∀ c ∈ out, Part.isTail c = true ∨ c = '.' := by
    intro parts hparts
    induction parts with
    | nil => exact ⟨[], rfl, fun c hc => (List.not_mem_nil hc).elim⟩
    | cons p rest ih =>
      obtain ⟨first, hfirst, htail⟩ := Part.exists_outside? (hparts p List.mem_cons_self)
      obtain ⟨others, hothers, hrest⟩ := ih fun q hq => hparts q (List.mem_cons_of_mem _ hq)
      -- Before every part but the first stands a dot, which is outside quotes.
      cases rest with
      | nil =>
        rw [List.map_cons, List.map_nil, List.intercalate_singleton]
        exact ⟨first, hfirst, fun c hc => .inl (htail c hc)⟩
      | cons q rest =>
        have hdot : ('.' : Char) ≠ '"' := by decide
        rw [List.map_cons] at hothers
        rw [List.map_cons, List.map_cons, List.intercalate_cons_cons, List.append_assoc,
          outside?_append hfirst, List.singleton_append, outside?_cons hdot, hothers]
        refine ⟨first ++ '.' :: others, rfl, fun c hc => ?_⟩
        rcases List.mem_append.1 hc with hc | hc
        · exact .inl (htail c hc)
        · rcases List.mem_cons.1 hc with rfl | hc
          · exact .inr rfl
          · exact hrest c hc
  exact hall i.parts i.wellFormed

end Graft
