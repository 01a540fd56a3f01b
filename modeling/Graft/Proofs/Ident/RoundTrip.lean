/-
Graft/Proofs/Ident/RoundTrip.lean

Reading a name and writing it are inverse to each other.

The grammar of names, in words of its own (`Part.Grammatical`):

    name    part, or parts with dots between them
    part    a letter or `_`, then letters, digits, `_` and `$`, or
            between double quotes, any text but the empty one, without NUL,
            with each of its double quotes written twice

`Grammar.lean` shows that writing undoes reading.  Here it is shown that what is
written in this grammar is read, and as what it was written from; so a text is
a name just if it is written so, and there is one way only to take it apart
(`Ident.parse_eq_ok_iff_written`).

Double quotes are looked at in two ways.  To find the dots, each of them opens
or closes a region; to read a part, only those at its ends count, and two in a
row stand for one between them.  A written part makes both agree: no region
stays open at its end, and no dot of it is outside of one (`segments?_append`).
-/
import Graft.Proofs.Ident.Grammar

namespace Graft

/-! ### The grammar -/

namespace Part

/-- A letter, without accents. -/
def IsLetter (c : Char) : Prop :=
  ('A' ≤ c ∧ c ≤ 'Z') ∨ ('a' ≤ c ∧ c ≤ 'z')

/-- A decimal digit. -/
def IsDigit (c : Char) : Prop :=
  '0' ≤ c ∧ c ≤ '9'

/-- The parts that names may have. -/
inductive Grammatical : Part → Prop
  | bare {first : Char} {others : List Char} (hfirst : IsLetter first ∨ first = '_')
      (hothers : ∀ c ∈ others, IsLetter c ∨ IsDigit c ∨ c = '_' ∨ c = '$') :
      Grammatical (.bare (String.ofList (first :: others)))
  | quoted {text : String} (hsome : text ≠ "") (hnul : '\x00' ∉ text.toList) :
      Grammatical (.quoted text)

theorem isAlpha_iff {c : Char} : c.isAlpha = true ↔ IsLetter c := by
  show (decide (c.val ≥ 'A'.val ∧ c.val ≤ 'Z'.val) ||
    (decide (c.val ≥ 'a'.val) && decide (c.val ≤ 'z'.val))) = true ↔ _
  simp [IsLetter, Char.le_def]

theorem isLead_iff {c : Char} : isLead c = true ↔ IsLetter c ∨ c = '_' := by
  simp [isLead, isAlpha_iff, or_comm]

theorem isTail_iff {c : Char} :
    isTail c = true ↔ IsLetter c ∨ IsDigit c ∨ c = '_' ∨ c = '$' := by
  have hdigit : c.isDigit = true ↔ IsDigit c := by
    simp [Char.isDigit, IsDigit, Char.le_def]
  simp only [isTail, Char.isAlphanum, Bool.or_eq_true, beq_iff_eq, isAlpha_iff, hdigit]
  constructor
  · rintro ((h | h) | h | h) <;> simp [h]
  · rintro (h | h | h | h) <;> simp [h]

/-- The texts of bare parts, by their first character and the others. -/
theorem isBare_cons_iff {c : Char} {rest : List Char} :
    IsBare (c :: rest) ↔ isLead c = true ∧ ∀ d ∈ rest, isTail d = true := by
  rw [IsBare, firstInvalid]
  split <;> simp_all

theorem grammatical_iff {p : Part} : p.Grammatical ↔ p.WellFormed := by
  constructor
  · intro h
    cases h with
    | bare hfirst hothers =>
      rw [WellFormed, String.toList_ofList, isBare_cons_iff]
      exact ⟨isLead_iff.2 hfirst, fun c hc => isTail_iff.2 (hothers c hc)⟩
    | quoted hsome hnul => exact ⟨fun hnil => hsome (String.toList_eq_nil_iff.1 hnil), hnul⟩
  · intro h
    cases p with
    | bare text =>
      obtain ⟨first, others, htext⟩ := List.exists_cons_of_ne_nil h.1
      rw [WellFormed, htext, isBare_cons_iff] at h
      rw [← String.ofList_toList (s := text), htext]
      exact .bare (isLead_iff.1 h.1) fun c hc => isTail_iff.1 (h.2 c hc)
    | quoted text => exact .quoted (fun hnil => h.1 (String.toList_eq_nil_iff.2 hnil)) h.2

/-! ### Reading a written part -/

theorem undoubleQuotes?_doubleQuotes (text : List Char) :
    undoubleQuotes? (doubleQuotes text) = some text := by
  induction text with
  | nil => rfl
  | cons c text ih =>
    rw [doubleQuotes]
    split
    · next hc =>
      subst hc
      simp [undoubleQuotes?, ih]
    · next hc => simp [undoubleQuotes?, hc, ih]

theorem doubleQuotes_ne_nil {text : List Char} (h : text ≠ []) : doubleQuotes text ≠ [] := by
  intro hnil
  have hread := undoubleQuotes?_doubleQuotes text
  rw [hnil] at hread
  exact h (Option.some.inj hread).symm

/-- A part is read from the segment that it is written as. -/
theorem read_chars {p : Part} (h : p.WellFormed) (name : String) : read name p.chars = .ok p := by
  cases p with
  | bare text =>
    obtain ⟨c, rest, htext⟩ := List.exists_cons_of_ne_nil h.1
    obtain ⟨-, hvalid⟩ := h
    -- A bare part does not start with a quote, so it is not taken for a quoted one.
    have hquote : c ≠ '"' := by
      rintro rfl
      rw [htext] at hvalid
      cases hvalid
    rw [htext] at hvalid
    have hread : read name (c :: rest) = .ok (.bare (String.ofList (c :: rest))) := by
      unfold read
      split
      · next hnil => cases hnil
      · next heq => exact absurd (List.cons.inj heq).1 hquote
      · rw [hvalid]
    rw [chars, htext, hread, ← htext, String.ofList_toList]
  | quoted text =>
    show readQuoted name (doubleQuotes text.toList ++ ['"']) = .ok (.quoted text)
    simp [readQuoted, doubleQuotes_ne_nil h.1, undoubleQuotes?_doubleQuotes]

theorem nul_not_mem_chars {p : Part} (h : p.WellFormed) : '\x00' ∉ p.chars := by
  cases p with
  | bare text =>
    intro hnul
    exact absurd (isTail_of_isBare h _ hnul) (by decide)
  | quoted text => simp [chars, mem_doubleQuotes_iff, h.2]

theorem chars_ne_nil {p : Part} (h : p.WellFormed) : p.chars ≠ [] := by
  cases p with
  | bare text => exact h.1
  | quoted text => simp [chars]

end Part

/-! ### Finding the parts again -/

/-- A text outside of whose double quotes there is no dot is all in one segment. -/
theorem segments?_append {inside : Bool} {s out : List Char} (h : outside? inside s = some out)
    (hdot : '.' ∉ out) (rest : List Char) :
    segments? inside (s ++ rest) = (segments? false rest).map (List.modifyHead (s ++ ·)) := by
  induction s generalizing inside out with
  | nil =>
    cases inside with
    | true => cases h
    | false =>
      have hid : List.modifyHead (([] : List Char) ++ ·) = id := by
        funext segs
        cases segs <;> rfl
      rw [List.nil_append, hid, Option.map_id]
      rfl
  | cons c s ih =>
    -- the character goes in front of the segment that the rest of the text begins with
    have hstep : ∀ inside', segments? inside' (s ++ rest) =
        (segments? false rest).map (List.modifyHead (s ++ ·)) →
        (segments? inside' (s ++ rest)).map (List.modifyHead (c :: ·)) =
          (segments? false rest).map (List.modifyHead (c :: s ++ ·)) := by
      intro inside' hrest
      rw [hrest, Option.map_map]
      congr 1
      funext segs
      cases segs <;> rfl
    rw [List.cons_append, segments?]
    by_cases hquote : c = '"'
    · subst hquote
      rw [outside?_quote] at h
      simpa using hstep _ (ih h hdot)
    · cases inside with
      | true =>
        rw [outside?_inside hquote] at h
        simpa [hquote] using hstep _ (ih h hdot)
      | false =>
        rw [outside?_cons hquote] at h
        obtain ⟨out, hout, rfl⟩ := Option.map_eq_some_iff.1 h
        obtain ⟨hc, hdot⟩ := List.ne_and_not_mem_of_not_mem_cons hdot
        simpa [hquote, Ne.symm hc] using hstep _ (ih hout hdot)

/-- The text that some parts are written as. -/
def Part.written (ps : List Part) : List Char :=
  ['.'].intercalate (ps.map chars)

/-- What some parts are written as has those parts for its segments. -/
theorem segments?_written {ps : List Part} (hsome : ps ≠ []) (h : ∀ p ∈ ps, p.WellFormed) :
    segments? false (Part.written ps) = some (ps.map Part.chars) := by
  induction ps with
  | nil => exact absurd rfl hsome
  | cons p rest ih =>
    obtain ⟨out, hout, htail⟩ := Part.exists_outside? (h p List.mem_cons_self)
    -- A part has no dot outside its quotes, so the next dot ends it.
    have hdot : '.' ∉ out := fun hmem => absurd (htail _ hmem) (by decide)
    cases rest with
    | nil =>
      have happend := segments?_append hout hdot []
      simpa [Part.written, segments?] using happend
    | cons q rest =>
      have ih := ih (List.cons_ne_nil _ _) fun r hr => h r (List.mem_cons_of_mem _ hr)
      have hwritten : Part.written (p :: q :: rest) =
          p.chars ++ '.' :: Part.written (q :: rest) := by
        simp [Part.written, List.intercalate_cons_cons]
      rw [hwritten, segments?_append hout hdot]
      simp [segments?, ih]

/-! ### Names -/

namespace Part

/-- The parts make up a name. -/
def MakeName (ps : List Part) : Prop :=
  ps ≠ [] ∧ ∀ p ∈ ps, p.Grammatical

theorem isBlank_of_isTail {c : Char} (h : isTail c = true) : Text.isBlank c = false := by
  have hrange : IsLetter c ∨ IsDigit c → Text.isBlank c = false := by
    simp only [IsLetter, IsDigit, Char.le_def, UInt32.le_iff_toNat_le]
    show (65 ≤ c.toNat ∧ c.toNat ≤ 90 ∨ 97 ≤ c.toNat ∧ c.toNat ≤ 122) ∨
      48 ≤ c.toNat ∧ c.toNat ≤ 57 → _
    intro h
    simp [Text.isBlank]
    omega
  rcases isTail_iff.1 h with h | h | rfl | rfl
  · exact hrange (.inl h)
  · exact hrange (.inr h)
  · decide
  · decide

theorem trim_chars {p : Part} (h : p.WellFormed) : Text.trim p.chars = p.chars := by
  cases p with
  | bare text =>
    have hblank : ∀ c ∈ text.toList, Text.isBlank c = false :=
      fun c hc => isBlank_of_isTail (isTail_of_isBare h c hc)
    exact Text.trim_of_ends (fun c hc => hblank c (List.mem_of_mem_head? hc))
      fun c hc => hblank c (List.mem_of_getLast? hc)
  | quoted text =>
    have hquote : Text.isBlank '"' = false := rfl
    rw [chars, ← List.cons_append]
    refine Text.trim_of_ends ?_ ?_
    · simp [hquote]
    · rw [List.getLast?_concat]
      simp [hquote]

theorem written_cons {p : Part} {rest : List Part} (h : rest ≠ []) :
    written (p :: rest) = p.chars ++ ['.'] ++ written rest := by
  obtain ⟨q, rest, rfl⟩ := List.exists_cons_of_ne_nil h
  simp [written, List.intercalate_cons_cons]

/-- A name begins and ends in no blank, and has no NUL in it. -/
theorem clean_written {ps : List Part} (hsome : ps ≠ []) (h : ∀ p ∈ ps, p.WellFormed) :
    written ps ≠ [] ∧ Text.trim (written ps) = written ps ∧ '\x00' ∉ written ps := by
  induction ps with
  | nil => exact absurd rfl hsome
  | cons p rest ih =>
    have hp := h p List.mem_cons_self
    by_cases hrest : rest = []
    · subst hrest
      simp [written, chars_ne_nil hp, trim_chars hp, nul_not_mem_chars hp]
    · obtain ⟨hsome, htrim, hnul⟩ := ih hrest fun q hq => h q (List.mem_cons_of_mem _ hq)
      rw [written_cons hrest]
      refine ⟨by simp, Text.trim_append (chars_ne_nil hp) (trim_chars hp) hsome htrim _, ?_⟩
      simp [nul_not_mem_chars hp, hnul]

theorem mapM_read_chars {ps : List Part} (h : ∀ p ∈ ps, p.WellFormed) (name : String) :
    (ps.map chars).mapM (read name) = .ok ps := by
  rw [mapM_eq_ok_iff, List.map_map]
  exact List.map_congr_left fun p hp => read_chars (h p hp) name

end Part

namespace Ident

theorem map_parts_parse (raw : String) : (parse raw).map Ident.parts = readParts raw := by
  cases h : readParts raw with
  | error v => rw [parse_eq_error_iff.2 h]; rfl
  | ok ps =>
    have hsound := readParts_sound h
    have hparse : parse raw = .ok ⟨ps, hsound.1, hsound.2⟩ := parse_eq_ok_iff.2 h
    rw [hparse]
    rfl

theorem readParts_eq_ok_iff {raw : String} {ps : List Part} :
    readParts raw = .ok ps ↔ Part.MakeName ps ∧ Text.trim raw.toList = Part.written ps := by
  constructor
  · intro h
    obtain ⟨hsome, hwf⟩ := readParts_sound h
    have hparse : parse raw = .ok ⟨ps, hsome, hwf⟩ := parse_eq_ok_iff.2 h
    refine ⟨⟨hsome, fun p hp => Part.grammatical_iff.2 (hwf p hp)⟩, ?_⟩
    exact (chars_of_parse hparse).symm
  · rintro ⟨⟨hsome, hname⟩, hraw⟩
    have hwf : ∀ p ∈ ps, p.WellFormed := fun p hp => Part.grammatical_iff.1 (hname p hp)
    obtain ⟨hwritten, -, hnul⟩ := Part.clean_written hsome hwf
    simp only [readParts, hraw]
    rw [if_neg hwritten, if_neg hnul, segments?_written hsome hwf]
    exact Part.mapM_read_chars hwf _

/-- **Reading a name and writing it are inverse to each other.**  A text is read as some parts just
if they make up a name and the text, without the blanks around it, is what they are written as.
Hence every name is read as it was written, no two names are written alike, and what a text is read
as stands in a statement as that text without the blanks around it. -/
theorem parse_eq_ok_iff_written (raw : String) (ps : List Part) :
    ((parse raw).map Ident.parts = .ok ps ↔
      Part.MakeName ps ∧ Text.trim raw.toList = Part.written ps) ∧
    (Part.MakeName ps → (parse (String.ofList (Part.written ps))).map Ident.parts = .ok ps) ∧
    (∀ qs, Part.MakeName ps → Part.MakeName qs → Part.written ps = Part.written qs → ps = qs) ∧
    ∀ sql, (parse raw).map Ident.sql = .ok sql → sql = String.ofList (Text.trim raw.toList) := by
  -- Written parts have no blank at either end, so nothing is trimmed from them.
  have hwritten : ∀ qs, Part.MakeName qs →
      readParts (String.ofList (Part.written qs)) = .ok qs := by
    intro qs hname
    have hwf : ∀ q ∈ qs, q.WellFormed := fun q hq => Part.grammatical_iff.1 (hname.2 q hq)
    obtain ⟨-, htrim, -⟩ := Part.clean_written hname.1 hwf
    rw [readParts_eq_ok_iff, String.toList_ofList]
    exact ⟨hname, htrim⟩
  refine ⟨?_, ?_, ?_, ?_⟩
  · rw [map_parts_parse]
    exact readParts_eq_ok_iff
  · intro hname
    rw [map_parts_parse]
    exact hwritten ps hname
  · intro qs hps hqs hsame
    have hread := hwritten ps hps
    rw [hsame, hwritten qs hqs] at hread
    exact (Except.ok.inj hread).symm
  · intro sql h
    cases hparse : parse raw with
    | error v =>
      rw [hparse] at h
      cases h
    | ok i =>
      rw [hparse] at h
      cases h
      exact sql_of_parse hparse

/-- The dot and the doubled double quote between double quotes belong to the part. -/
example : (parse " main.\"a.\"\"b\" ").map Ident.parts =
    .ok [.bare "main", .quoted "a.\"b"] := rfl

end Ident

end Graft
