import Conform.Proofs.Path.Scanner

/-!
# Written paths are read back

The text of a path has a derivation that denotes the path: indices and quoted
keys stand in groups, all other keys are plain.  So reading inverts writing, and
the only two paths that are written alike are the root and the key that the root
is shown as.
-/
namespace Conform

/-- An index is a 64-bit word. -/
def Segment.Fits : Segment → Prop
  | index n => n < UInt64.size
  | key _ => True

instance : DecidablePred Segment.Fits
  | .index n => inferInstanceAs (Decidable (n < UInt64.size))
  | .key _ => inferInstanceAs (Decidable True)

/-- Every index of the path is a 64-bit word. -/
def Path.Fits (p : Path) : Prop := ∀ s ∈ p, s.Fits

instance (p : Path) : Decidable p.Fits := inferInstanceAs (Decidable (∀ s ∈ p, s.Fits))

namespace Path

/-- A character as it stands in a quoted key. -/
def QuotedChar.ofChar (c : Char) : QuotedChar :=
  if c = '"' ∨ c = '\\' then .escaped c else .bare c

theorem QuotedChar.char_ofChar (c : Char) : (ofChar c).char = c := by
  unfold ofChar
  split <;> rfl

theorem QuotedChar.within_ofChar (c : Char) : (ofChar c).Within '"' := by
  unfold ofChar
  split
  · trivial
  · rename_i h
    rw [not_or] at h
    exact ⟨h.2, h.1⟩

theorem bodyText_ofChar (name : List Char) :
    bodyText (name.map QuotedChar.ofChar) = Segment.escaped name := by
  unfold bodyText Segment.escaped
  rw [List.flatMap_map]
  congr 1
  funext c
  unfold QuotedChar.ofChar
  split <;> rfl

theorem map_char_ofChar (name : List Char) :
    (name.map QuotedChar.ofChar).map QuotedChar.char = name := by
  rw [List.map_map]
  exact List.map_id'' QuotedChar.char_ofChar name

/-- A key that is not quoted is a plain key, and not all of it are digits. -/
theorem plain_of_needsQuotes {name : List Char} (h : Segment.needsQuotes name = false) :
    name ≠ [] ∧ (∀ c ∈ name, c ≠ '.' ∧ c ≠ '[' ∧ c ≠ ']') ∧ name.all Char.isDigit = false := by
  simp only [Segment.needsQuotes, Bool.or_eq_false_iff, List.isEmpty_eq_false_iff,
    List.any_eq_false] at h
  refine ⟨h.1.1, ?_, h.2⟩
  intro c hc
  simpa [and_assoc] using h.1.2 c hc

/-- The digits of an index neither open nor close a bracket. -/
theorem digits_flat (n : Nat) : ∀ c ∈ (toString n).toList, c.isDigit = true := by
  intro c hc
  have htext : (toString n).toList = Nat.toDigits 10 n := by simp
  rw [htext] at hc
  exact Nat.isDigit_of_mem_toDigits (by decide) (by decide) hc

def indexGroup (n : Nat) : Group :=
  .unquoted (toString n).toList (by simp)
    (by
      intro c hc
      have h := digits_flat n c hc
      constructor <;> rintro rfl <;> cases h)
    (by
      intro c hc hq
      have h := digits_flat n c (List.mem_of_mem_head? hc)
      rcases hq with rfl | rfl <;> cases h)

def quotedGroup (name : List Char) : Group :=
  .quoted '"' (name.map QuotedChar.ofChar) (.inl rfl) (by
    intro x hx
    obtain ⟨c, _, rfl⟩ := List.mem_map.mp hx
    exact QuotedChar.within_ofChar c)

/-- How a segment is written. -/
def partOf : Segment → Part
  | .index n => .group (indexGroup n)
  | .key k =>
    if h : Segment.needsQuotes k.toList = false then
      .plain ⟨k.toList, (plain_of_needsQuotes h).1, (plain_of_needsQuotes h).2.1⟩
    else .group (quotedGroup k.toList)

def continuationOf (s : Segment) : Continuation :=
  match partOf s with
  | .plain key => .dotted (.plain key)
  | .group g => .adjacent g

theorem quotedGroup_text (name : List Char) :
    (quotedGroup name).text = '[' :: '"' :: Segment.escaped name ++ ['"', ']'] := by
  rw [← bodyText_ofChar]
  rfl

theorem partOf_plain {k : String} (h : Segment.needsQuotes k.toList = false) :
    partOf (.key k) =
      .plain ⟨k.toList, (plain_of_needsQuotes h).1, (plain_of_needsQuotes h).2.1⟩ :=
  dif_pos h

theorem partOf_quoted {k : String} (h : Segment.needsQuotes k.toList = true) :
    partOf (.key k) = .group (quotedGroup k.toList) :=
  dif_neg (by simp [h])

theorem textAfter_plain {k : String} (isFirst : Bool)
    (h : Segment.needsQuotes k.toList = false) :
    Segment.textAfter isFirst (.key k) = if isFirst then k.toList else '.' :: k.toList :=
  if_neg (by simp [h])

theorem textAfter_quoted {k : String} (isFirst : Bool)
    (h : Segment.needsQuotes k.toList = true) :
    Segment.textAfter isFirst (.key k) = (quotedGroup k.toList).text := by
  rw [quotedGroup_text]
  exact if_pos h

theorem partOf_text (s : Segment) : (partOf s).text = s.textAfter true := by
  cases s with
  | index n => rfl
  | key k =>
    cases h : Segment.needsQuotes k.toList with
    | false =>
      rw [partOf_plain h, textAfter_plain true h]
      rfl
    | true =>
      rw [partOf_quoted h, textAfter_quoted true h]
      rfl

theorem continuationOf_text (s : Segment) : (continuationOf s).text = s.textAfter false := by
  unfold continuationOf
  cases s with
  | index n => rfl
  | key k =>
    cases h : Segment.needsQuotes k.toList with
    | false =>
      rw [partOf_plain h, textAfter_plain false h]
      rfl
    | true =>
      rw [partOf_quoted h, textAfter_quoted false h]
      rfl

theorem continuationOf_part (s : Segment) : (continuationOf s).part = partOf s := by
  unfold continuationOf
  cases partOf s <;> rfl

theorem partOf_segment {s : Segment} (h : s.Fits) : (partOf s).segment = s := by
  cases s with
  | index n =>
    have hreads : Reads (toString n).toList (.index n) := ⟨h, rfl⟩
    exact (reads_iff _ _).mp hreads
  | key k =>
    cases hq : Segment.needsQuotes k.toList with
    | false =>
      rw [partOf_plain hq, Part.segment, ← reads_iff]
      refine ⟨rfl, ?_⟩
      intro n _ hk
      have hdigits : (toString n).toList.all Char.isDigit = true :=
        List.all_eq_true.mpr (digits_flat n)
      rw [← hk] at hdigits
      exact absurd hdigits (by simp [(plain_of_needsQuotes hq).2.2])
    | true =>
      rw [partOf_quoted hq]
      simp only [Part.segment, quotedGroup, Group.segment, map_char_ofChar, String.ofList_toList]

/-- How a path other than the root is written. -/
def derivationOf (s : Segment) (rest : Path) : Derivation :=
  ⟨partOf s, rest.map continuationOf⟩

theorem derivationOf_text (s : Segment) (rest : Path) :
    (derivationOf s rest).text = chars (s :: rest) := by
  have h : continuationsText (rest.map continuationOf) =
      rest.flatMap (Segment.textAfter false) := by
    rw [continuationsText, List.flatMap_map]
    congr 1
    funext t
    exact continuationOf_text t
  rw [derivationOf, Derivation.text, h, partOf_text, chars]

theorem derivationOf_path {s : Segment} {rest : Path} (h : Fits (s :: rest)) :
    (derivationOf s rest).path = s :: rest := by
  have hs : s.Fits := h s (List.mem_cons_self ..)
  have hrest : rest.map (fun t => (continuationOf t).part.segment) = rest.map id := by
    apply List.map_congr_left
    intro t ht
    rw [continuationOf_part, partOf_segment (h t (List.mem_cons_of_mem _ ht)), id]
  simp only [derivationOf, Derivation.path, Derivation.parts, List.map_cons, List.map_map]
  rw [partOf_segment hs]
  exact congrArg (s :: ·) (hrest.trans rest.map_id)

theorem parse_text {p : Path} (hp : p.Fits) (h : p ≠ root) : parse p.text = .ok p := by
  cases p with
  | nil => exact absurd rfl h
  | cons s rest =>
    rw [parse, text, String.toList_ofList, parseChars_eq_ok_iff]
    exact ⟨derivationOf s rest, derivationOf_text s rest, derivationOf_path hp⟩

theorem plainSegment_fits (cs : List Char) : (plainSegment cs).Fits := by
  have hreads := (reads_iff cs (plainSegment cs)).mpr rfl
  cases h : plainSegment cs with
  | index n =>
    rw [h] at hreads
    exact hreads.1
  | key k => trivial

theorem Part.segment_fits (x : Part) : x.segment.Fits := by
  cases x with
  | plain key => exact plainSegment_fits key.chars
  | group g =>
    cases g with
    | unquoted cs _ _ _ => exact plainSegment_fits cs
    | quoted q body _ _ => trivial

theorem Derivation.path_fits (d : Derivation) : d.path.Fits := by
  intro s hs
  obtain ⟨x, _, rfl⟩ := List.mem_map.mp hs
  exact x.segment_fits

/-- What is read is never the root, and its indices are words. -/
theorem fits_of_parse {t : String} {p : Path} (h : parse t = .ok p) : p.Fits ∧ p ≠ root := by
  rw [parse, parseChars_eq_ok_iff] at h
  obtain ⟨d, _, rfl⟩ := h
  exact ⟨d.path_fits, d.path_ne_root⟩

theorem parse_rootText : parse rootText = .ok [.key rootText] := by
  decide

/-- Two paths are written alike only if one is the root and the other the key
that the root is shown as. -/
theorem text_eq_iff {p q : Path} (hp : p.Fits) (hq : q.Fits) :
    p.text = q.text ↔
      p = q ∨ (p = root ∧ q = [.key rootText]) ∨ (p = [.key rootText] ∧ q = root) := by
  have hroot {r : Path} (hr : r.Fits) (hne : r ≠ root) (h : root.text = r.text) :
      r = [.key rootText] := by
    have hparse := parse_text hr hne
    rw [← h] at hparse
    have h' : Except.ok r = Except.ok [.key rootText] := hparse.symm.trans parse_rootText
    exact Except.ok.inj h'
  constructor
  · intro h
    by_cases hp0 : p = root
    · by_cases hq0 : q = root
      · exact .inl (hp0.trans hq0.symm)
      · exact .inr (.inl ⟨hp0, hroot hq hq0 (hp0 ▸ h)⟩)
    · by_cases hq0 : q = root
      · exact .inr (.inr ⟨hroot hp hp0 (hq0 ▸ h.symm), hq0⟩)
      · have hparse := parse_text hp hp0
        rw [h, parse_text hq hq0] at hparse
        exact .inl (Except.ok.inj hparse).symm
  · rintro (rfl | ⟨rfl, rfl⟩ | ⟨rfl, rfl⟩) <;> rfl

/-- Reading inverts writing on every path but the root, which is never read;
writing brings an accepted text into a form that is read and written as it is;
and only the root and the key of its display are written alike. -/
theorem parse_text_round_trip :
    (∀ p : Path, p.Fits → p ≠ root → parse p.text = .ok p) ∧
    (∀ t : String, parse t ≠ .ok root) ∧
    (∀ (t : String) (p : Path), parse t = .ok p →
      parse p.text = .ok p ∧ (parse p.text).map text = .ok p.text) ∧
    (∀ p q : Path, p.Fits → q.Fits →
      (p.text = q.text ↔
        p = q ∨ (p = root ∧ q = [.key rootText]) ∨ (p = [.key rootText] ∧ q = root))) := by
  refine ⟨fun p hp h => parse_text hp h, ?_, ?_, fun p q hp hq => text_eq_iff hp hq⟩
  · intro t h
    exact (fits_of_parse h).2 rfl
  · intro t p h
    obtain ⟨hfits, hne⟩ := fits_of_parse h
    have hparse := parse_text hfits hne
    exact ⟨hparse, by rw [hparse]; rfl⟩

/-- Keys of every spelling beside the largest index. -/
theorem parse_text_mixed_path :
    Fits [.key "", .index 18446744073709551615, .key "007", .key "a.b]\"\\é", .key "é"] ∧
      parse (text [.key "", .index 18446744073709551615, .key "007", .key "a.b]\"\\é",
        .key "é"]) =
        .ok [.key "", .index 18446744073709551615, .key "007", .key "a.b]\"\\é", .key "é"] :=
  ⟨by decide, parse_text_round_trip.1 _ (by decide) (by decide)⟩

end Path
end Conform
