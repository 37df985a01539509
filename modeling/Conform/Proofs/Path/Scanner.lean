import Conform.Proofs.Path.Grammar

/-!
# The scanner reads the grammar

One invariant ties a scan to the text that it has taken: the complete segments
come from a derivation of an initial part of that text, and the place says what
the remaining characters are the beginning of.  Every step keeps the invariant,
so an accepted text has a derivation.  Conversely, the scanner runs through the
text of any derivation and ends with the path that it denotes.
-/
namespace Conform.Path

/-- The scan after some characters. -/
def Scan.advance (s : Scan) (offset : Nat) : List Char → Except SyntaxError Scan
  | [] => .ok s
  | c :: rest =>
    match s.step offset c with
    | .ok next => next.advance (offset + c.utf8Size) rest
    | .error e => .error e

/-- The bytes that a text occupies. -/
def width (cs : List Char) : Nat := cs.foldr (fun c n => c.utf8Size + n) 0

theorem Scan.advance_cons_of_step {s t : Scan} {offset : Nat} {c : Char} (cs : List Char)
    (h : s.step offset c = .ok t) :
    s.advance offset (c :: cs) = t.advance (offset + c.utf8Size) cs := by
  rw [advance, h]

theorem Scan.advance_append_of_ok {s t : Scan} {offset : Nat} {cs : List Char} (ds : List Char)
    (h : s.advance offset cs = .ok t) :
    s.advance offset (cs ++ ds) = t.advance (offset + width cs) ds := by
  induction cs generalizing s offset with
  | nil =>
    cases h
    rfl
  | cons c cs ih =>
    rw [List.cons_append, advance]
    rw [advance] at h
    split at h
    · rw [ih h]
      simp only [width, List.foldr_cons, Nat.add_assoc]
    · cases h

/-- A run is an advance to the end of the text. -/
theorem Scan.run_eq_ok_iff (s : Scan) (offset : Nat) (cs : List Char) (p : Path) :
    s.run offset cs = .ok p ↔
      ∃ t, s.advance offset cs = .ok t ∧ t.finish (offset + width cs) = .ok p := by
  induction cs generalizing s offset with
  | nil => simp [run, advance, width]
  | cons c cs ih =>
    rw [run, advance]
    cases s.step offset c with
    | ok next =>
      dsimp only
      rw [ih]
      simp only [width, List.foldr_cons, Nat.add_assoc]
    | error e => simp

/-! ## From a derivation to its path -/

/-- A scan at the end of a segment, with the segments so far. -/
inductive Scan.Ends : Scan → Path → Prop where
  | inKey (p : Path) (text : List Char) : Ends ⟨p, .inKey text⟩ (p ++ [plainSegment text])
  | afterBracket (p : Path) : Ends ⟨p, .afterBracket⟩ p

theorem Scan.Ends.finish {s : Scan} {p : Path} (h : s.Ends p) (length : Nat) :
    s.finish length = .ok p := by
  cases h <;> rfl

theorem Scan.Ends.step_point {s : Scan} {p : Path} (h : s.Ends p) (offset : Nat) :
    s.step offset '.' = .ok ⟨p, .segmentStart⟩ := by
  cases h <;> rfl

theorem Scan.Ends.step_bracket {s : Scan} {p : Path} (h : s.Ends p) (offset : Nat) :
    s.step offset '[' = .ok ⟨p, .inBracket offset []⟩ := by
  cases h <;> rfl

theorem Scan.advance_inKey (p : Path) (offset : Nat) (text cs : List Char)
    (h : ∀ c ∈ cs, c ≠ '.' ∧ c ≠ '[' ∧ c ≠ ']') :
    advance ⟨p, .inKey text⟩ offset cs = .ok ⟨p, .inKey (text ++ cs)⟩ := by
  induction cs generalizing offset text with
  | nil => simp [advance]
  | cons c cs ih =>
    rw [List.forall_mem_cons] at h
    have hstep : step ⟨p, .inKey text⟩ offset c = .ok ⟨p, .inKey (text ++ [c])⟩ := by
      simp [step, h.1]
    rw [advance_cons_of_step cs hstep, ih _ _ h.2, List.append_assoc, List.singleton_append]

theorem Scan.advance_inBracket (p : Path) (offset opened : Nat) (text cs : List Char)
    (ht : text ≠ []) (h : ∀ c ∈ cs, c ≠ '[' ∧ c ≠ ']') :
    advance ⟨p, .inBracket opened text⟩ offset cs = .ok ⟨p, .inBracket opened (text ++ cs)⟩ := by
  induction cs generalizing offset text with
  | nil => simp [advance]
  | cons c cs ih =>
    rw [List.forall_mem_cons] at h
    have hstep : step ⟨p, .inBracket opened text⟩ offset c =
        .ok ⟨p, .inBracket opened (text ++ [c])⟩ := by
      simp [step, ht, h.1]
    rw [advance_cons_of_step cs hstep, ih _ _ (by simp) h.2, List.append_assoc,
      List.singleton_append]

theorem Scan.advance_body (p : Path) (offset opened : Nat) (q : Char) (text : List Char)
    (body : List QuotedChar) (h : ∀ c ∈ body, c.Within q) :
    advance ⟨p, .inQuotes opened q text⟩ offset (bodyText body) =
      .ok ⟨p, .inQuotes opened q (text ++ body.map QuotedChar.char)⟩ := by
  induction body generalizing offset text with
  | nil => simp [advance]
  | cons x body ih =>
    rw [List.forall_mem_cons] at h
    have hx : advance ⟨p, .inQuotes opened q text⟩ offset x.text =
        .ok ⟨p, .inQuotes opened q (text ++ [x.char])⟩ := by
      cases x with
      | bare c =>
        have hc : c ≠ '\\' ∧ c ≠ q := h.1
        simp [QuotedChar.text, QuotedChar.char, advance, step, hc]
      | escaped c => simp [QuotedChar.text, QuotedChar.char, advance, step]
    rw [bodyText_cons, advance_append_of_ok _ hx, ih _ _ h.2, List.map_cons, List.append_assoc,
      List.singleton_append]

theorem Scan.advance_group {s : Scan} {p : Path} (offset : Nat) (g : Group)
    (h : s.step offset '[' = .ok ⟨p, .inBracket offset []⟩) :
    s.advance offset g.text = .ok ⟨p ++ [g.segment], .afterBracket⟩ := by
  cases g with
  | unquoted cs hne hflat hbare =>
    cases cs with
    | nil => exact absurd rfl hne
    | cons c cs =>
      rw [List.forall_mem_cons] at hflat
      have hc : ¬IsQuote c := hbare c rfl
      have hfirst (k : Nat) : step ⟨p, .inBracket offset []⟩ k c =
          .ok ⟨p, .inBracket offset [c]⟩ := by
        have hc' : ¬(c = '"' ∨ c = '\'') := hc
        simp [step, hc', hflat.1]
      have hrest (k : Nat) := advance_inBracket p k offset [c] cs (by simp) hflat.2
      have hclose (k : Nat) : advance ⟨p, .inBracket offset ([c] ++ cs)⟩ k [']'] =
          .ok ⟨p ++ [plainSegment (c :: cs)], .afterBracket⟩ := by
        simp [advance, step]
      rw [Group.text, List.cons_append, advance_cons_of_step _ h, List.cons_append,
        advance_cons_of_step _ (hfirst _), advance_append_of_ok _ (hrest _), hclose]
      rfl
  | quoted q body hq hbody =>
    have hopen (k : Nat) : step ⟨p, .inBracket offset []⟩ k q =
        .ok ⟨p, .inQuotes offset q []⟩ := by
      have hq' : q = '"' ∨ q = '\'' := hq
      simp [step, hq']
    have hbody (k : Nat) := advance_body p k offset q [] body hbody
    have hslash : q ≠ '\\' := by
      rcases hq with rfl | rfl <;> decide
    have hclose (k : Nat) (text : List Char) : advance ⟨p, .inQuotes offset q text⟩ k [q, ']'] =
        .ok ⟨p ++ [.key (String.ofList text)], .afterBracket⟩ := by
      simp [advance, step, hslash]
    rw [Group.text, List.cons_append, advance_cons_of_step _ h, List.cons_append,
      advance_cons_of_step _ (hopen _), advance_append_of_ok _ (hbody _), hclose]
    rfl

theorem Scan.advance_part (p : Path) (offset : Nat) (x : Part) :
    ∃ t, advance ⟨p, .segmentStart⟩ offset x.text = .ok t ∧ t.Ends (p ++ [x.segment]) := by
  cases x with
  | plain key =>
    obtain ⟨cs, hne, hplain⟩ := key
    cases cs with
    | nil => exact absurd rfl hne
    | cons c cs =>
      rw [List.forall_mem_cons] at hplain
      have hfirst : step ⟨p, .segmentStart⟩ offset c = .ok ⟨p, .inKey [c]⟩ := by
        simp [step, hplain.1]
      refine ⟨⟨p, .inKey ([c] ++ cs)⟩, ?_, .inKey p (c :: cs)⟩
      rw [Part.text, advance_cons_of_step _ hfirst, advance_inKey _ _ _ _ hplain.2]
  | group g => exact ⟨_, advance_group offset g rfl, .afterBracket _⟩

theorem Scan.Ends.advance_continuation {s : Scan} {p : Path} (h : s.Ends p) (offset : Nat)
    (x : Continuation) :
    ∃ t, s.advance offset x.text = .ok t ∧ t.Ends (p ++ [x.part.segment]) := by
  cases x with
  | dotted x =>
    obtain ⟨t, ht, hends⟩ := advance_part p (offset + '.'.utf8Size) x
    exact ⟨t, by rw [Continuation.text, advance_cons_of_step _ (h.step_point offset), ht], hends⟩
  | adjacent g => exact ⟨_, advance_group offset g (h.step_bracket offset), .afterBracket _⟩

theorem Scan.Ends.advance_continuations {s : Scan} {p : Path} (h : s.Ends p) (offset : Nat)
    (rest : List Continuation) :
    ∃ t, s.advance offset (continuationsText rest) = .ok t ∧
      t.Ends (p ++ rest.map fun x => x.part.segment) := by
  induction rest generalizing s p offset with
  | nil => exact ⟨s, rfl, by simpa using h⟩
  | cons x rest ih =>
    obtain ⟨t, ht, hends⟩ := h.advance_continuation offset x
    obtain ⟨u, hu, hends'⟩ := ih hends (offset + width x.text)
    refine ⟨u, ?_, by simpa using hends'⟩
    rw [continuationsText_cons, advance_append_of_ok _ ht, hu]

/-- The text of a derivation is read as the path that it denotes. -/
theorem parseChars_text (d : Derivation) : parseChars d.text = .ok d.path := by
  obtain ⟨t, ht, hends⟩ := Scan.advance_part [] 0 d.first
  obtain ⟨u, hu, hends'⟩ := hends.advance_continuations (0 + width d.first.text) d.rest
  have hpath : [] ++ [d.first.segment] ++ (d.rest.map fun x => x.part.segment) = d.path := by
    simp [Derivation.path, Derivation.parts]
  have hrun : Scan.run ⟨[], .segmentStart⟩ 0 d.text = .ok d.path := by
    rw [Scan.run_eq_ok_iff]
    refine ⟨u, ?_, ?_⟩
    · rw [Derivation.text, Scan.advance_append_of_ok _ ht, hu]
    · rw [hends'.finish, hpath]
  have hne : d.text ≠ [] := by
    intro h
    rw [h] at hrun
    cases hrun
  rw [parseChars, if_neg hne, hrun]

/-! ## From a scan to a derivation -/

/-- A text and its path after which any part may come. -/
def Starts (lead : List Char) (p : Path) : Prop :=
  (lead = [] ∧ p = []) ∨ ∃ d : Derivation, lead = d.text ++ ['.'] ∧ p = d.path

/-- A text and its path after which a group may come. -/
def Opens (lead : List Char) (p : Path) : Prop :=
  Starts lead p ∨ ∃ d : Derivation, lead = d.text ∧ p = d.path

theorem Starts.part {lead : List Char} {p : Path} (h : Starts lead p) (x : Part) :
    ∃ d : Derivation, d.text = lead ++ x.text ∧ d.path = p ++ [x.segment] := by
  rcases h with ⟨rfl, rfl⟩ | ⟨d, rfl, rfl⟩
  · exact ⟨⟨x, []⟩, by simp [Derivation.text], rfl⟩
  · refine ⟨d.snoc (.dotted x), ?_, d.snoc_path _⟩
    rw [d.snoc_text, Continuation.text, List.append_assoc, List.singleton_append]

theorem Opens.group {lead : List Char} {p : Path} (h : Opens lead p) (g : Group) :
    ∃ d : Derivation, d.text = lead ++ g.text ∧ d.path = p ++ [g.segment] := by
  rcases h with h | ⟨d, rfl, rfl⟩
  · exact h.part (.group g)
  · exact ⟨d.snoc (.adjacent g), d.snoc_text _, d.snoc_path _⟩

/-- The invariant of a scan: what its place and its segments say about the text
that it has taken. -/
inductive Follows : Scan → List Char → Prop where
  | segmentStart {lead p} (h : Starts lead p) : Follows ⟨p, .segmentStart⟩ lead
  | inKey {lead p} (h : Starts lead p) (key : PlainKey) :
      Follows ⟨p, .inKey key.chars⟩ (lead ++ key.chars)
  | inBracket {lead p} (h : Opens lead p) (opened : Nat) {cs : List Char}
      (flat : ∀ c ∈ cs, c ≠ '[' ∧ c ≠ ']') (bare : ∀ c ∈ cs.head?, ¬IsQuote c) :
      Follows ⟨p, .inBracket opened cs⟩ (lead ++ '[' :: cs)
  | inQuotes {lead p} (h : Opens lead p) (opened : Nat) {q : Char} (mark : IsQuote q)
      (body : List QuotedChar) (within : ∀ c ∈ body, c.Within q) :
      Follows ⟨p, .inQuotes opened q (body.map QuotedChar.char)⟩
        (lead ++ '[' :: q :: bodyText body)
  | inEscape {lead p} (h : Opens lead p) (opened : Nat) {q : Char} (mark : IsQuote q)
      (body : List QuotedChar) (within : ∀ c ∈ body, c.Within q) :
      Follows ⟨p, .inEscape opened q (body.map QuotedChar.char)⟩
        (lead ++ '[' :: q :: bodyText body ++ ['\\'])
  | afterQuote {lead p} (h : Opens lead p) (opened : Nat) {q : Char} (mark : IsQuote q)
      (body : List QuotedChar) (within : ∀ c ∈ body, c.Within q) :
      Follows ⟨p, .afterQuote opened (body.map QuotedChar.char)⟩
        (lead ++ '[' :: q :: bodyText body ++ [q])
  | afterBracket (d : Derivation) : Follows ⟨d.path, .afterBracket⟩ d.text

theorem Follows.start : Follows ⟨[], .segmentStart⟩ [] := .segmentStart (.inl ⟨rfl, rfl⟩)

/-- A complete group leaves the scan after its bracket. -/
theorem Follows.of_group {lead : List Char} {p : Path} (h : Opens lead p) (g : Group) :
    Follows ⟨p ++ [g.segment], .afterBracket⟩ (lead ++ g.text) := by
  obtain ⟨d, htext, hpath⟩ := h.group g
  rw [← htext, ← hpath]
  exact .afterBracket d

/-- An opened bracket holds nothing yet. -/
theorem Follows.of_opens {lead : List Char} {p : Path} (h : Opens lead p) (opened : Nat) :
    Follows ⟨p, .inBracket opened []⟩ (lead ++ ['[']) :=
  .inBracket h opened (by simp) (by simp)

theorem Follows.step_inKey {lead : List Char} {p : Path} (h : Starts lead p) (key : PlainKey)
    {t : Scan} {offset : Nat} {c : Char}
    (hs : Scan.step ⟨p, .inKey key.chars⟩ offset c = .ok t) :
    Follows t (lead ++ key.chars ++ [c]) := by
  obtain ⟨d, htext, hpath⟩ := h.part (.plain key)
  simp only [Scan.step] at hs
  split at hs
  · rename_i hc
    cases hs
    rw [hc]
    exact .of_opens (.inr ⟨d, htext.symm, hpath.symm⟩) offset
  · split at hs
    · rename_i hc
      cases hs
      rw [hc]
      exact .segmentStart (.inr ⟨d, congrArg (· ++ ['.']) htext.symm, hpath.symm⟩)
    · split at hs
      · cases hs
      · rename_i hb hp hu
        cases hs
        have hplain : ∀ e ∈ key.chars ++ [c], e ≠ '.' ∧ e ≠ '[' ∧ e ≠ ']' := by
          rw [List.forall_mem_append]
          exact ⟨key.plain, by simp [hb, hp, hu]⟩
        rw [List.append_assoc]
        exact .inKey h ⟨key.chars ++ [c], by simp, hplain⟩

theorem Follows.step_inBracket {lead : List Char} {p : Path} (h : Opens lead p) (opened : Nat)
    {cs : List Char} (flat : ∀ c ∈ cs, c ≠ '[' ∧ c ≠ ']') (bare : ∀ c ∈ cs.head?, ¬IsQuote c)
    {t : Scan} {offset : Nat} {c : Char}
    (hs : Scan.step ⟨p, .inBracket opened cs⟩ offset c = .ok t) :
    Follows t (lead ++ '[' :: cs ++ [c]) := by
  simp only [Scan.step] at hs
  split at hs
  · rename_i hc
    cases hs
    obtain ⟨rfl, hq⟩ := hc
    rw [List.append_assoc]
    exact .inQuotes h opened hq [] (by simp)
  · rename_i hopen
    split at hs
    · rename_i hc
      split at hs
      · cases hs
      · rename_i hne
        cases hs
        rw [hc, List.append_assoc]
        exact .of_group h (.unquoted cs hne flat bare)
    · split at hs
      · cases hs
      · rename_i hu hb
        cases hs
        rw [List.append_assoc, List.cons_append]
        refine .inBracket h opened ?_ ?_
        · rw [List.forall_mem_append]
          exact ⟨flat, by simp [hb, hu]⟩
        · cases cs with
          | nil =>
            intro e he
            cases he
            exact fun hq => hopen ⟨rfl, hq⟩
          | cons d ds => exact bare

/-- A body takes one more character that is within its quotes. -/
theorem Follows.inQuotes_snoc {lead : List Char} {p : Path} (h : Opens lead p) (opened : Nat)
    {q : Char} (mark : IsQuote q) {body : List QuotedChar} (within : ∀ c ∈ body, c.Within q)
    {x : QuotedChar} (hx : x.Within q) :
    Follows ⟨p, .inQuotes opened q (body.map QuotedChar.char ++ [x.char])⟩
      (lead ++ '[' :: q :: bodyText body ++ x.text) := by
  have hstep := Follows.inQuotes h opened mark (body ++ [x]) (by
    rw [List.forall_mem_append]
    exact ⟨within, by simpa using hx⟩)
  simpa [bodyText] using hstep

/-- Every step keeps the invariant. -/
theorem Follows.step {s t : Scan} {taken : List Char} {offset : Nat} {c : Char}
    (h : Follows s taken) (hs : s.step offset c = .ok t) : Follows t (taken ++ [c]) := by
  cases h with
  | segmentStart h =>
    simp only [Scan.step] at hs
    split at hs
    · rename_i hc
      cases hs
      rw [hc]
      exact .of_opens (.inl h) offset
    · split at hs
      · cases hs
      · split at hs
        · cases hs
        · rename_i hb hp hu
          cases hs
          exact .inKey h ⟨[c], by simp, by simp [hb, hp, hu]⟩
  | inKey h key => exact .step_inKey h key hs
  | inBracket h opened flat bare => exact .step_inBracket h opened flat bare hs
  | inQuotes h opened mark body within =>
    simp only [Scan.step] at hs
    split at hs
    · rename_i hc
      cases hs
      rw [hc]
      exact .inEscape h opened mark body within
    · split at hs
      · rename_i hc
        cases hs
        rw [hc]
        exact .afterQuote h opened mark body within
      · rename_i hslash hq
        cases hs
        exact .inQuotes_snoc h opened mark within (x := .bare c) ⟨hslash, hq⟩
  | inEscape h opened mark body within =>
    cases hs
    rw [List.append_assoc]
    exact .inQuotes_snoc h opened mark within (x := .escaped c) trivial
  | afterQuote h opened mark body within =>
    simp only [Scan.step] at hs
    split at hs
    · rename_i hc
      cases hs
      have hgroup := Follows.of_group h (.quoted _ body mark within)
      rw [hc]
      simpa [Group.text, Group.segment] using hgroup
    · cases hs
  | afterBracket d =>
    simp only [Scan.step] at hs
    split at hs
    · rename_i hc
      cases hs
      rw [hc]
      exact .of_opens (.inr ⟨d, rfl, rfl⟩) offset
    · split at hs
      · rename_i hc
        cases hs
        rw [hc]
        exact .segmentStart (.inr ⟨d, rfl, rfl⟩)
      · split at hs <;> cases hs

theorem Follows.advance {s t : Scan} {taken cs : List Char} {offset : Nat}
    (h : Follows s taken) (hs : s.advance offset cs = .ok t) : Follows t (taken ++ cs) := by
  induction cs generalizing s taken offset with
  | nil =>
    cases hs
    simpa using h
  | cons c cs ih =>
    rw [Scan.advance] at hs
    split at hs
    · rename_i next hnext
      rw [List.append_cons]
      exact ih (h.step hnext) hs
    · cases hs

theorem Follows.finish {s : Scan} {taken : List Char} {length : Nat} {p : Path}
    (h : Follows s taken) (hs : s.finish length = .ok p) :
    ∃ d : Derivation, d.text = taken ∧ d.path = p := by
  cases h with
  | inKey h key =>
    cases hs
    exact h.part (.plain key)
  | afterBracket d =>
    cases hs
    exact ⟨d, rfl, rfl⟩
  | segmentStart | inBracket | inQuotes | inEscape | afterQuote => cases hs

theorem parseChars_eq_ok_iff (cs : List Char) (p : Path) :
    parseChars cs = .ok p ↔ ∃ d : Derivation, d.text = cs ∧ d.path = p := by
  constructor
  · intro h
    unfold parseChars at h
    split at h
    · cases h
    · obtain ⟨t, ht, hp⟩ := (Scan.run_eq_ok_iff ..).mp h
      exact (Follows.start.advance ht).finish hp
  · rintro ⟨d, rfl, rfl⟩
    exact parseChars_text d

/-- A text is a path exactly when it has a derivation, which it has once only,
and it is read as the path that its parts denote. -/
theorem parse_reads_grammar :
    (∀ (text : String) (p : Path),
      parse text = .ok p ↔ ∃ d : Derivation, d.text = text.toList ∧ d.Denotes p) ∧
    Function.Injective Derivation.text := by
  constructor
  · intro text p
    rw [parse, parseChars_eq_ok_iff]
    simp only [Derivation.denotes_iff]
  · intro d e h
    exact Derivation.text_injective h

end Conform.Path
