import Conform.Proofs.Path.Scanner

/-!
# Texts that are not paths

A scan that stops within a text has come upon a character that nothing further
can mend: it stops there whatever follows.  A scan that fails at the end only
misses something, since every place that a scan comes to leads on to a path.  In
both cases the text before the offset of the failure is the beginning of a path:
the offset is that of the last character that was taken, or of a bracket that is
still open there, or the end.
-/
namespace Conform.Path

/-- Some path text begins like this. -/
def Viable (cs : List Char) : Prop := ∃ more p, parseChars (cs ++ more) = .ok p

theorem Derivation.viable {d : Derivation} {cs more : List Char} (h : d.text = cs ++ more) :
    Viable cs :=
  ⟨more, d.path, h ▸ parseChars_text d⟩

/-- A key that fits wherever a part is missing. -/
def letter : PlainKey := ⟨['a'], by simp, by simp⟩

theorem Starts.viable {lead : List Char} {p : Path} (h : Starts lead p) : Viable lead := by
  obtain ⟨d, hd, -⟩ := h.part (.plain letter)
  exact d.viable hd

theorem Opens.viable {lead cs : List Char} {p : Path} (h : Opens lead p) (g : Group)
    (more : List Char) (hg : g.text = cs ++ more) : Viable (lead ++ cs) := by
  obtain ⟨d, hd, -⟩ := h.group g
  rw [hg, ← List.append_assoc] at hd
  exact d.viable hd

/-- Every place that a scan comes to leads on to a path. -/
theorem Follows.viable {s : Scan} {taken : List Char} (h : Follows s taken) : Viable taken := by
  cases h with
  | segmentStart h => exact h.viable
  | inKey h key =>
    obtain ⟨d, hd, -⟩ := h.part (.plain key)
    exact d.viable (hd.trans (List.append_nil _).symm)
  | @inBracket lead _ h _ cs flat bare =>
    -- The bracket may still be empty, so it takes one more character before it is closed.
    have hflat : ∀ c ∈ cs ++ ['a'], c ≠ '[' ∧ c ≠ ']' := by
      rw [List.forall_mem_append]
      exact ⟨flat, by simp⟩
    have hbare : ∀ c ∈ (cs ++ ['a']).head?, ¬IsQuote c := by
      cases cs with
      | nil => simp [IsQuote]
      | cons c cs => exact bare
    exact h.viable (.unquoted (cs ++ ['a']) (by simp) hflat hbare) ['a', ']']
      (by simp [Group.text])
  | @inQuotes _ _ h _ q mark body within =>
    exact h.viable (.quoted q body mark within) [q, ']'] (by simp [Group.text])
  | @inEscape _ _ h _ q mark body within =>
    have hwithin : ∀ c ∈ body ++ [.escaped 'a'], c.Within q := by
      rw [List.forall_mem_append]
      exact ⟨within, by simp [QuotedChar.Within]⟩
    rw [List.append_assoc]
    exact h.viable (.quoted q (body ++ [.escaped 'a']) mark hwithin) ['a', q, ']']
      (by simp [Group.text, bodyText, QuotedChar.text])
  | @afterQuote _ _ h _ q mark body within =>
    rw [List.append_assoc]
    exact h.viable (.quoted q body mark within) [']'] (by simp [Group.text])
  | afterBracket d => exact d.viable (List.append_nil _).symm

theorem width_append (cs ds : List Char) : width (cs ++ ds) = width cs + width ds := by
  induction cs with
  | nil => simp [width]
  | cons c cs ih =>
    simp only [width, List.cons_append, List.foldr_cons] at ih ⊢
    omega

theorem utf8ByteSize_ofList_eq_width (cs : List Char) :
    (String.ofList cs).utf8ByteSize = width cs := by
  induction cs with
  | nil => rfl
  | cons c cs ih =>
    rw [String.ofList_cons, String.utf8ByteSize_append, ih, String.utf8ByteSize_singleton]
    rfl

/-- The offset is that of a character or of the end, and what comes before is the
beginning of a path. -/
def Located (cs : List Char) (offset : Nat) : Prop :=
  ∃ before after, cs = before ++ after ∧ width before = offset ∧ Viable before

theorem Viable.located {cs : List Char} (h : Viable cs) : Located cs (width cs) :=
  ⟨cs, [], (List.append_nil cs).symm, rfl, h⟩

theorem Located.append {cs : List Char} {offset : Nat} (h : Located cs offset)
    (ds : List Char) : Located (cs ++ ds) offset := by
  obtain ⟨before, after, rfl, hwidth, hviable⟩ := h
  exact ⟨before, after ++ ds, List.append_assoc .., hwidth, hviable⟩

/-! ## The offset of a failure -/

/-- Where the bracket was opened that is still open. -/
def Place.opened? : Place → Option Nat
  | inBracket opened _ | inQuotes opened _ _ | inEscape opened _ _ | afterQuote opened _ =>
    some opened
  | segmentStart | inKey _ | afterBracket => none

theorem Scan.opened_of_step {s t : Scan} {offset : Nat} {c : Char}
    (h : s.step offset c = .ok t) {opened : Nat} (ho : t.place.opened? = some opened) :
    opened = offset ∨ s.place.opened? = some opened := by
  obtain ⟨p, place⟩ := s
  cases place with
  | inEscape => cases h; exact .inr ho
  | segmentStart | inKey | inBracket | inQuotes | afterQuote | afterBracket =>
    simp only [step] at h
    split_ifs at h <;> cases h <;> simp_all [Place.opened?]

/-- A step stops at its character or at the bracket around it. -/
theorem Scan.offset_of_step_error {s : Scan} {offset : Nat} {c : Char} {e : SyntaxError}
    (h : s.step offset c = .error e) : e.offset = offset ∨ s.place.opened? = some e.offset := by
  obtain ⟨p, place⟩ := s
  cases place with
  | inEscape => cases h
  | segmentStart | inKey | inBracket | inQuotes | afterQuote | afterBracket =>
    simp only [step] at h
    split_ifs at h <;> cases h <;> simp [Place.opened?]

/-- A scan that may not end there fails at its end or at the bracket around it. -/
theorem Scan.offset_of_finish_error {s : Scan} {length : Nat} {e : SyntaxError}
    (h : s.finish length = .error e) : e.offset = length ∨ s.place.opened? = some e.offset := by
  obtain ⟨p, place⟩ := s
  cases place <;> cases h <;> simp [Place.opened?]

/-- The invariant of a scan, with the offset that it keeps. -/
structure Tracks (s : Scan) (taken : List Char) : Prop where
  follows : Follows s taken
  opened : ∀ opened, s.place.opened? = some opened → Located taken opened

namespace Tracks
variable {s t : Scan} {taken : List Char} {c : Char} {e : SyntaxError}

theorem start : Tracks ⟨[], .segmentStart⟩ [] := ⟨.start, by simp [Place.opened?]⟩

/-- What a failure of the scan may report is located. -/
theorem located (h : Tracks s taken) {offset : Nat}
    (ho : offset = width taken ∨ s.place.opened? = some offset) : Located taken offset := by
  rcases ho with rfl | ho
  · exact h.follows.viable.located
  · exact h.opened offset ho

theorem step (h : Tracks s taken) (hs : s.step (width taken) c = .ok t) :
    Tracks t (taken ++ [c]) where
  follows := h.follows.step hs
  opened _ ho := (h.located (Scan.opened_of_step hs ho)).append [c]

/-- A scan goes on to keep the invariant, or it stops at a located offset. -/
theorem advance (h : Tracks s taken) (cs : List Char) :
    (∀ t, s.advance (width taken) cs = .ok t → Tracks t (taken ++ cs)) ∧
    (∀ e, s.advance (width taken) cs = .error e → Located (taken ++ cs) e.offset) := by
  induction cs generalizing s taken with
  | nil =>
    constructor
    · rintro _ ⟨⟩
      rwa [List.append_nil]
    · rintro _ ⟨⟩
  | cons c cs ih =>
    rw [Scan.advance]
    cases hs : s.step (width taken) c with
    | error e =>
      refine ⟨by simp, ?_⟩
      rintro _ ⟨⟩
      exact (h.located (Scan.offset_of_step_error hs)).append (c :: cs)
    | ok next =>
      have hnext := ih (h.step hs)
      rw [width_append, ← List.append_cons] at hnext
      exact hnext

theorem finish (h : Tracks s taken) (hs : s.finish (width taken) = .error e) :
    Located taken e.offset :=
  h.located (Scan.offset_of_finish_error hs)

end Tracks

/-! ## What follows a failure -/

/-- A run advances to the end and finishes there. -/
theorem Scan.run_eq (s : Scan) (offset : Nat) (cs : List Char) :
    s.run offset cs = s.advance offset cs >>= fun t => t.finish (offset + width cs) := by
  induction cs generalizing s offset with
  | nil => rfl
  | cons c cs ih =>
    rw [run, advance]
    cases s.step offset c with
    | error e => rfl
    | ok next =>
      dsimp only
      rw [ih]
      simp only [width, List.foldr_cons, Nat.add_assoc]

theorem Scan.advance_append_of_error {s : Scan} {offset : Nat} {cs : List Char}
    {e : SyntaxError} (h : s.advance offset cs = .error e) (ds : List Char) :
    s.advance offset (cs ++ ds) = .error e := by
  induction cs generalizing s offset with
  | nil => cases h
  | cons c cs ih =>
    rw [advance] at h
    rw [List.cons_append, advance]
    cases hs : s.step offset c with
    | error e' =>
      rw [hs] at h
      exact h
    | ok next =>
      rw [hs] at h
      exact ih h

/-- A text that is not a path fails at a located offset; and either some path
begins with it, or it fails in the same way whatever is added. -/
theorem parseChars_error {cs : List Char} {e : SyntaxError} (h : parseChars cs = .error e) :
    Located cs e.offset ∧ (Viable cs ∨ ∀ more, parseChars (cs ++ more) = .error e) := by
  unfold parseChars at h
  split at h
  · rename_i hempty
    cases h
    rw [hempty]
    exact ⟨Follows.start.viable.located, .inl Follows.start.viable⟩
  · rename_i hne
    rw [Scan.run_eq, Nat.zero_add] at h
    have hadvance := Tracks.start.advance cs
    cases hs : Scan.advance ⟨[], .segmentStart⟩ 0 cs with
    | ok t =>
      rw [hs] at h
      have ht := hadvance.1 t hs
      exact ⟨ht.finish h, .inl ht.follows.viable⟩
    | error e' =>
      rw [hs] at h
      cases h
      refine ⟨hadvance.2 e hs, .inr fun more => ?_⟩
      rw [parseChars, if_neg (by simp [hne]), Scan.run_eq, Scan.advance_append_of_error hs]
      rfl

/-- The text before the offset of a syntax error is the beginning of a path: the
offset is a boundary between characters, at most the end.  Either some path begins
with the whole text, which is then only incomplete, or every text that begins with
it fails at the same offset for the same reason. -/
theorem syntax_error_located (text : String) (e : SyntaxError) (h : parse text = .error e) :
    (∃ before after : String, text = before ++ after ∧ before.utf8ByteSize = e.offset ∧
      ∃ (more : String) (p : Path), parse (before ++ more) = .ok p) ∧
    Xor (∃ (more : String) (p : Path), parse (text ++ more) = .ok p)
      (∀ more : String, parse (text ++ more) = .error e) := by
  have hviable {s : String} (hs : Viable s.toList) : ∃ (more : String) (p : Path),
      parse (s ++ more) = .ok p := by
    obtain ⟨more, p, hp⟩ := hs
    exact ⟨String.ofList more, p, by rwa [parse, String.toList_append, String.toList_ofList]⟩
  obtain ⟨⟨before, after, htext, hwidth, hbefore⟩, hclass⟩ := parseChars_error h
  constructor
  · refine ⟨String.ofList before, String.ofList after, ?_, ?_, hviable ?_⟩
    · rw [← String.ofList_append, ← htext, String.ofList_toList]
    · rw [utf8ByteSize_ofList_eq_width, hwidth]
    · rwa [String.toList_ofList]
  · rcases hclass with hincomplete | hstable
    · obtain ⟨more, p, hp⟩ := hviable hincomplete
      refine .inl ⟨⟨more, p, hp⟩, fun hall => ?_⟩
      cases hp.symm.trans (hall more)
    · have hall (more : String) : parse (text ++ more) = .error e := by
        rw [parse, String.toList_append, hstable]
      refine .inr ⟨hall, ?_⟩
      rintro ⟨more, p, hp⟩
      cases hp.symm.trans (hall more)

/-- The quote is still open, so the bracket is reported that stands behind a
character of two bytes; with the quote and the bracket closed the text is a path. -/
theorem openQuote_located :
    parse "é[\"]" = .error ⟨2, .unclosedBracket⟩ ∧
    (∃ before after : String, "é[\"]" = before ++ after ∧ before.utf8ByteSize = 2 ∧
      ∃ (more : String) (p : Path), parse (before ++ more) = .ok p) ∧
    ¬ ∀ more : String, parse ("é[\"]" ++ more) = .error ⟨2, .unclosedBracket⟩ := by
  have h : parse "é[\"]" = .error ⟨2, .unclosedBracket⟩ := by decide
  obtain ⟨hlocated, ⟨-, hmended⟩ | ⟨hstable, -⟩⟩ := syntax_error_located _ _ h
  · exact ⟨h, hlocated, hmended⟩
  · have hread : parse ("é[\"]" ++ "\"]") = .ok [.key "é", .key "]"] := by decide
    cases hread.symm.trans (hstable "\"]")

end Conform.Path
