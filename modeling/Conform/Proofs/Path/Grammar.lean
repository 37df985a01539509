import Conform.Path.Parser
import Conform.Proofs.Path.Decimal
import Mathlib.Data.List.Forall2

/-!
# The grammar of path texts

A path text is a first part followed by further ones, each set off by a point
unless it stands in brackets.  A part is a plain key or a bracket group, and a
group holds an unquoted text or a quoted key.  A derivation records how a text
is put together; the constructors admit well-formed parts only, and a text has
at most one derivation.
-/
namespace Conform

namespace Path

/-- What an unquoted text denotes: the index whose decimal it is, and otherwise
the key of that text. -/
def Reads (cs : List Char) : Segment → Prop
  | .index n => n < UInt64.size ∧ cs = (toString n).toList
  | .key name => name.toList = cs ∧ ∀ n < UInt64.size, cs ≠ (toString n).toList

theorem reads_iff (cs : List Char) (s : Segment) : Reads cs s ↔ plainSegment cs = s := by
  unfold plainSegment
  cases s with
  | index n =>
    simp only [Reads, ← canonicalIndex?_eq_some_iff]
    cases canonicalIndex? cs <;> simp
  | key name =>
    have hnone : (∀ n < UInt64.size, cs ≠ (toString n).toList) ↔ canonicalIndex? cs = none := by
      rw [Option.eq_none_iff_forall_ne_some]
      simp only [ne_eq, canonicalIndex?_eq_some_iff, not_and]
    rw [Reads, hnone]
    constructor
    · rintro ⟨rfl, h⟩
      simp [h]
    · intro h
      cases hc : canonicalIndex? cs with
      | some n => simp [hc] at h
      | none =>
        simp only [hc, Segment.key.injEq] at h
        simp [← h]

def IsQuote (c : Char) : Prop := c = '"' ∨ c = '\''

/-- A key written as it stands. -/
structure PlainKey where
  chars : List Char
  nonempty : chars ≠ []
  plain : ∀ c ∈ chars, c ≠ '.' ∧ c ≠ '[' ∧ c ≠ ']'

/-- A character of a quoted key: as it stands, or taken after a backslash. -/
inductive QuotedChar where
  | bare (c : Char)
  | escaped (c : Char)
deriving DecidableEq

namespace QuotedChar

def text : QuotedChar → List Char
  | bare c => [c]
  | escaped c => ['\\', c]

def char : QuotedChar → Char
  | bare c => c
  | escaped c => c

/-- Neither a backslash nor the closing quote stands bare. -/
def Within (quote : Char) : QuotedChar → Prop
  | bare c => c ≠ '\\' ∧ c ≠ quote
  | escaped _ => True

end QuotedChar

def bodyText (body : List QuotedChar) : List Char := body.flatMap QuotedChar.text

@[simp] theorem bodyText_nil : bodyText [] = [] := rfl

@[simp] theorem bodyText_cons (c : QuotedChar) (body : List QuotedChar) :
    bodyText (c :: body) = c.text ++ bodyText body := rfl

/-- A bracket group. -/
inductive Group where
  | unquoted (chars : List Char) (nonempty : chars ≠ [])
      (flat : ∀ c ∈ chars, c ≠ '[' ∧ c ≠ ']') (bare : ∀ c ∈ chars.head?, ¬IsQuote c)
  | quoted (quote : Char) (body : List QuotedChar) (mark : IsQuote quote)
      (within : ∀ c ∈ body, c.Within quote)

namespace Group

def text : Group → List Char
  | unquoted cs _ _ _ => '[' :: cs ++ [']']
  | quoted q body _ _ => '[' :: q :: bodyText body ++ [q, ']']

def Denotes : Group → Segment → Prop
  | unquoted cs _ _ _, s => Reads cs s
  | quoted _ body _ _, s => s = .key (String.ofList (body.map QuotedChar.char))

/-- The segment that the group denotes. -/
def segment : Group → Segment
  | unquoted cs _ _ _ => plainSegment cs
  | quoted _ body _ _ => .key (String.ofList (body.map QuotedChar.char))

theorem denotes_iff (g : Group) (s : Segment) : g.Denotes s ↔ g.segment = s := by
  cases g with
  | unquoted cs _ _ _ => exact reads_iff cs s
  | quoted q body _ _ => exact eq_comm

end Group

inductive Part where
  | plain (key : PlainKey)
  | group (group : Group)

namespace Part

def text : Part → List Char
  | plain key => key.chars
  | group g => g.text

def Denotes : Part → Segment → Prop
  | plain key, s => Reads key.chars s
  | group g, s => g.Denotes s

/-- The segment that the part denotes. -/
def segment : Part → Segment
  | plain key => plainSegment key.chars
  | group g => g.segment

theorem denotes_iff (x : Part) (s : Segment) : x.Denotes s ↔ x.segment = s := by
  cases x with
  | plain key => exact reads_iff key.chars s
  | group g => exact g.denotes_iff s

end Part

/-- A further part: after a point, or a group that follows directly. -/
inductive Continuation where
  | dotted (part : Part)
  | adjacent (group : Group)

namespace Continuation

def part : Continuation → Part
  | dotted x => x
  | adjacent g => .group g

def text : Continuation → List Char
  | dotted x => '.' :: x.text
  | adjacent g => g.text

end Continuation

def continuationsText (rest : List Continuation) : List Char := rest.flatMap Continuation.text

@[simp] theorem continuationsText_nil : continuationsText [] = [] := rfl

@[simp] theorem continuationsText_cons (x : Continuation) (rest : List Continuation) :
    continuationsText (x :: rest) = x.text ++ continuationsText rest := rfl

/-- How a path text is put together. -/
structure Derivation where
  first : Part
  rest : List Continuation

namespace Derivation

def text (d : Derivation) : List Char := d.first.text ++ continuationsText d.rest

def parts (d : Derivation) : List Part := d.first :: d.rest.map Continuation.part

/-- The path has the segments that the parts denote, in order. -/
def Denotes (d : Derivation) (p : Path) : Prop := List.Forall₂ Part.Denotes d.parts p

/-- The path that the derivation denotes. -/
def path (d : Derivation) : Path := d.parts.map Part.segment

theorem denotes_iff (d : Derivation) (p : Path) : d.Denotes p ↔ d.path = p := by
  have h : Part.Denotes = fun x s => x.segment = s := by
    funext x s
    exact propext (x.denotes_iff s)
  rw [Denotes, path, h, ← List.forall₂_eq_eq_eq, List.forall₂_map_left_iff]

theorem path_ne_root (d : Derivation) : d.path ≠ root := by
  simp [path, parts, root]

/-- The derivation with one more part. -/
def snoc (d : Derivation) (x : Continuation) : Derivation := ⟨d.first, d.rest ++ [x]⟩

@[simp] theorem snoc_text (d : Derivation) (x : Continuation) :
    (d.snoc x).text = d.text ++ x.text := by
  simp [snoc, text, continuationsText]

@[simp] theorem snoc_path (d : Derivation) (x : Continuation) :
    (d.snoc x).path = d.path ++ [x.part.segment] := by
  simp [snoc, path, parts]

end Derivation
/-- Two texts that start with runs of a class, ended by a character outside of
it, have the same run and the same remainder. -/
theorem run_split {P : Char → Prop} {xs ys r t : List Char} (hx : ∀ c ∈ xs, P c)
    (hy : ∀ c ∈ ys, P c) (hr : ∀ c ∈ r.head?, ¬P c) (ht : ∀ c ∈ t.head?, ¬P c)
    (h : xs ++ r = ys ++ t) : xs = ys ∧ r = t := by
  induction xs generalizing ys with
  | nil =>
    cases ys with
    | nil => exact ⟨rfl, h⟩
    | cons y ys =>
      rw [List.nil_append] at h
      subst h
      exact absurd (hy y (List.mem_cons_self ..)) (hr y rfl)
  | cons x xs ih =>
    cases ys with
    | nil =>
      rw [List.nil_append] at h
      subst h
      exact absurd (hx x (List.mem_cons_self ..)) (ht x rfl)
    | cons y ys =>
      simp only [List.cons_append, List.cons.injEq] at h
      obtain ⟨rfl, h⟩ := h
      obtain ⟨rfl, rfl⟩ := ih (fun c hc => hx c (List.mem_cons_of_mem _ hc))
        (fun c hc => hy c (List.mem_cons_of_mem _ hc)) h
      exact ⟨rfl, rfl⟩

theorem QuotedChar.text_split {q : Char} {x y : QuotedChar} {r t : List Char}
    (hx : x.Within q) (hy : y.Within q) (h : x.text ++ r = y.text ++ t) : x = y ∧ r = t := by
  cases x with
  | bare c =>
    cases y with
    | bare d => simpa [text] using h
    | escaped d => exact absurd (List.cons.inj h).1 hx.1
  | escaped c =>
    cases y with
    | bare d => exact absurd (List.cons.inj h).1.symm hy.1
    | escaped d => simpa [text] using h

/-- A body does not begin with the closing quote. -/
theorem QuotedChar.text_ne_quote {q : Char} {x : QuotedChar} (hq : IsQuote q) (hx : x.Within q)
    (r t : List Char) : x.text ++ r ≠ q :: t := by
  intro h
  cases x with
  | bare c => exact hx.2 (List.cons.inj h).1
  | escaped c =>
    have hslash : '\\' = q := (List.cons.inj h).1
    subst hslash
    rcases hq with h | h <;> cases h

/-- The first bare quote ends a body. -/
theorem bodyText_split {q : Char} {xs ys : List QuotedChar} {r t : List Char} (hq : IsQuote q)
    (hx : ∀ c ∈ xs, c.Within q) (hy : ∀ c ∈ ys, c.Within q)
    (h : bodyText xs ++ q :: r = bodyText ys ++ q :: t) : xs = ys ∧ r = t := by
  induction xs generalizing ys with
  | nil =>
    cases ys with
    | nil => exact ⟨rfl, (List.cons.inj h).2⟩
    | cons y ys =>
      rw [bodyText_cons, List.append_assoc] at h
      exact absurd h.symm (QuotedChar.text_ne_quote hq (hy y (List.mem_cons_self ..)) _ _)
  | cons x xs ih =>
    cases ys with
    | nil =>
      rw [bodyText_cons, List.append_assoc] at h
      exact absurd h (QuotedChar.text_ne_quote hq (hx x (List.mem_cons_self ..)) _ _)
    | cons y ys =>
      rw [List.forall_mem_cons] at hx hy
      simp only [bodyText_cons, List.append_assoc] at h
      obtain ⟨rfl, hrest⟩ := QuotedChar.text_split hx.1 hy.1 h
      obtain ⟨rfl, rfl⟩ := ih hx.2 hy.2 hrest
      exact ⟨rfl, rfl⟩

/-- A group ends where its text says, whatever follows. -/
theorem Group.text_split {g k : Group} {r t : List Char} (h : g.text ++ r = k.text ++ t) :
    g = k ∧ r = t := by
  cases g with
  | unquoted cs hne hflat hbare =>
    cases k with
    | unquoted ds hne' hflat' hbare' =>
      have h' : cs ++ ']' :: r = ds ++ ']' :: t := by simpa [Group.text] using h
      obtain ⟨rfl, hrest⟩ := run_split hflat hflat' (by simp) (by simp) h'
      exact ⟨rfl, (List.cons.inj hrest).2⟩
    | quoted q body hq hbody =>
      cases cs with
      | nil => exact absurd rfl hne
      | cons c cs =>
        have hc : c = q := by simp_all [Group.text]
        exact absurd (hc ▸ hq) (hbare c rfl)
  | quoted q body hq hbody =>
    cases k with
    | unquoted cs hne hflat hbare =>
      cases cs with
      | nil => exact absurd rfl hne
      | cons c cs =>
        have hc : q = c := by simp_all [Group.text]
        exact absurd (hc ▸ hq) (hbare c rfl)
    | quoted q' body' hq' hbody' =>
      have h' : q = q' ∧ bodyText body ++ q :: ']' :: r = bodyText body' ++ q' :: ']' :: t := by
        simpa [Group.text] using h
      obtain ⟨rfl, hbodies⟩ := h'
      obtain ⟨rfl, hrest⟩ := bodyText_split hq hbody hbody' hbodies
      exact ⟨rfl, (List.cons.inj hrest).2⟩

theorem Group.text_head (g : Group) : g.text.head? = some '[' := by
  cases g <;> rfl

theorem PlainKey.text_head (key : PlainKey) (r : List Char) :
    ∀ c ∈ (key.chars ++ r).head?, c ≠ '.' ∧ c ≠ '[' := by
  obtain ⟨cs, hne, hplain⟩ := key
  cases cs with
  | nil => exact absurd rfl hne
  | cons c cs =>
    intro d hd
    cases hd
    have := hplain c (List.mem_cons_self ..)
    exact ⟨this.1, this.2.1⟩

/-- A remainder at which a plain key ends. -/
def AtBreak (r : List Char) : Prop := ∀ c ∈ r.head?, c = '.' ∨ c = '['

theorem atBreak_continuationsText (rest : List Continuation) :
    AtBreak (continuationsText rest) := by
  intro c hc
  cases rest with
  | nil => cases hc
  | cons x rest =>
    cases x with
    | dotted x =>
      cases hc
      exact .inl rfl
    | adjacent g =>
      rw [continuationsText_cons, Continuation.text, List.head?_append, g.text_head] at hc
      cases hc
      exact .inr rfl

theorem Part.text_split {x y : Part} {r t : List Char} (hr : AtBreak r) (ht : AtBreak t)
    (h : x.text ++ r = y.text ++ t) : x = y ∧ r = t := by
  have hgroup (key : PlainKey) (g : Group) (u v : List Char) : key.chars ++ u ≠ g.text ++ v := by
    intro e
    have hc : '[' ∈ (key.chars ++ u).head? := by rw [e, List.head?_append, g.text_head]; rfl
    exact (key.text_head u '[' hc).2 rfl
  have hend {u : List Char} (hu : AtBreak u) :
      ∀ c ∈ u.head?, ¬(c ≠ '.' ∧ c ≠ '[' ∧ c ≠ ']') := by
    intro c hc
    rcases hu c hc with rfl | rfl <;> simp
  cases x with
  | plain key =>
    cases y with
    | plain key' =>
      obtain ⟨cs, hne, hplain⟩ := key
      obtain ⟨ds, hne', hplain'⟩ := key'
      obtain ⟨rfl, rfl⟩ := run_split hplain hplain' (hend hr) (hend ht) h
      exact ⟨rfl, rfl⟩
    | group g => exact absurd h (hgroup key g _ _)
  | group g =>
    cases y with
    | plain key => exact absurd h.symm (hgroup key g _ _)
    | group k =>
      obtain ⟨rfl, rfl⟩ := Group.text_split h
      exact ⟨rfl, rfl⟩

theorem Continuation.text_split {x y : Continuation} {r t : List Char} (hr : AtBreak r)
    (ht : AtBreak t) (h : x.text ++ r = y.text ++ t) : x = y ∧ r = t := by
  have hgroup (z : Part) (g : Group) (u v : List Char) : '.' :: z.text ++ u ≠ g.text ++ v := by
    intro e
    have hc := congrArg List.head? e
    rw [List.head?_append (l := g.text), g.text_head] at hc
    simp at hc
  cases x with
  | dotted x =>
    cases y with
    | dotted y =>
      obtain ⟨rfl, rfl⟩ := Part.text_split hr ht (List.cons.inj h).2
      exact ⟨rfl, rfl⟩
    | adjacent g => exact absurd h (hgroup x g _ _)
  | adjacent g =>
    cases y with
    | dotted y => exact absurd h.symm (hgroup y g _ _)
    | adjacent k =>
      obtain ⟨rfl, rfl⟩ := Group.text_split h
      exact ⟨rfl, rfl⟩

theorem continuationsText_injective {xs ys : List Continuation}
    (h : continuationsText xs = continuationsText ys) : xs = ys := by
  have hne (x : Continuation) (u : List Char) : x.text ++ u ≠ [] := by
    cases x with
    | dotted x => exact List.cons_ne_nil _ _
    | adjacent g => cases g <;> exact List.cons_ne_nil _ _
  induction xs generalizing ys with
  | nil =>
    cases ys with
    | nil => rfl
    | cons y ys => exact absurd h.symm (hne y _)
  | cons x xs ih =>
    cases ys with
    | nil => exact absurd h (hne x _)
    | cons y ys =>
      obtain ⟨rfl, hrest⟩ := Continuation.text_split (atBreak_continuationsText xs)
        (atBreak_continuationsText ys) h
      rw [ih hrest]

/-- The grammar is unambiguous. -/
theorem Derivation.text_injective {d e : Derivation} (h : d.text = e.text) : d = e := by
  obtain ⟨x, xs⟩ := d
  obtain ⟨y, ys⟩ := e
  obtain ⟨rfl, hrest⟩ := Part.text_split (atBreak_continuationsText xs)
    (atBreak_continuationsText ys) h
  rw [continuationsText_injective hrest]

end Path
end Conform
