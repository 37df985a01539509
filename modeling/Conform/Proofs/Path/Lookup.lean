import Conform.Proofs.Path.RoundTrip
import Conform.Proofs.Schema.Distinct

/-!
# What a path finds

Of its segments a path uses the text alone: an index finds what the key of its
decimal finds, in an array as in an object.  So the spellings of a name after a
point, in brackets and in quotes lead to the same place.  A look-up finds the
values at the positions whose keys and indices have these texts, and the written
path of a position is read back and finds the value there.
-/
namespace Conform

/-- There is a value at a position in another one; the path has the keys and the
indices that lead to it. -/
inductive Json.At : Json → Path → Json → Prop where
  | here (v : Json) : At v [] v
  | item {xs : List Json} {k : Nat} {x v : Json} {p : Path} (hx : xs[k]? = some x)
    (h : At x p v) : At (.array xs) (.index k :: p) v
  | member {ms : Table Json} {key : String} {x v : Json} {p : Path} (hx : (key, x) ∈ ms)
    (h : At x p v) : At (.object ms) (.key key :: p) v

/-- An index selects what the key of its decimal selects. -/
theorem Segment.select?_eq_key {s : Segment} (hs : s.Fits) (v : Json) :
    s.select? v = (key s.text).select? v := by
  cases s with
  | key name => rfl
  | index n =>
    cases v with
    | array xs =>
      have hread : canonicalIndex? (toString n).toList = some n :=
        (canonicalIndex?_eq_some_iff _ n).mpr ⟨hs, rfl⟩
      change xs[n]? = (canonicalIndex? (toString n).toList).bind fun k => xs[k]?
      rw [hread]
      rfl
    | object | null | bool | number | string => rfl

namespace Path
variable {p q : Path} {v w : Json}

theorem lookup?_eq_keys (hp : p.Fits) (v : Json) :
    p.lookup? v = lookup? (p.map fun s => .key s.text) v := by
  induction p generalizing v with
  | nil => rfl
  | cons s rest ih =>
    obtain ⟨hs, hrest⟩ := List.forall_mem_cons.mp hp
    rw [List.map_cons, lookup?, lookup?, Segment.select?_eq_key hs, funext (ih hrest)]

/-- A look-up depends on the texts of the segments only. -/
theorem lookup?_eq_of_texts (hp : p.Fits) (hq : q.Fits)
    (h : p.map Segment.text = q.map Segment.text) (v : Json) : p.lookup? v = q.lookup? v := by
  have hkeys : p.map (fun s => Segment.key s.text) = q.map fun s => .key s.text := by
    have hmap := congrArg (List.map Segment.key) h
    rwa [List.map_map, List.map_map] at hmap
  rw [lookup?_eq_keys hp, lookup?_eq_keys hq, hkeys]

/-- The path of a position finds the value there. -/
theorem lookup?_of_at (hv : v.Distinct) (h : v.At p w) : p.lookup? v = some w := by
  induction h with
  | here => rfl
  | @item xs k x _ p hx _ ih =>
    rw [lookup?, Segment.select?, hx]
    exact ih (hv.item (List.mem_of_getElem? hx))
  | @member ms key x _ p hx _ ih =>
    have hget : ms.get? key = some x := (Table.get?_eq_some_iff hv.keys).mpr hx
    have hselect : (Segment.key key).select? (.object ms) = some x := hget
    rw [lookup?, hselect]
    exact ih (hv.member hget)

/-- What is found stands at a position that is written with the same texts. -/
theorem exists_at_of_lookup? (hp : p.Fits) (h : p.lookup? v = some w) :
    ∃ q : Path, q.Fits ∧ q.map Segment.text = p.map Segment.text ∧ v.At q w := by
  induction p generalizing v with
  | nil =>
    cases h
    exact ⟨[], hp, rfl, .here _⟩
  | cons s rest ih =>
    obtain ⟨hs, hrest⟩ := List.forall_mem_cons.mp hp
    rw [lookup?, Segment.select?_eq_key hs, Option.bind_eq_some_iff] at h
    obtain ⟨x, hx, h⟩ := h
    obtain ⟨q, hq, htexts, hat⟩ := ih hrest h
    cases v with
    | array xs =>
      obtain ⟨n, hn, hx⟩ := Option.bind_eq_some_iff.mp hx
      obtain ⟨hfits, htext⟩ := (canonicalIndex?_eq_some_iff _ n).mp hn
      refine ⟨.index n :: q, List.forall_mem_cons.mpr ⟨hfits, hq⟩, ?_, .item hx hat⟩
      have hsame : (Segment.index n).text = s.text := String.toList_inj.mp htext.symm
      rw [List.map_cons, List.map_cons, hsame, htexts]
    | object ms =>
      refine ⟨.key s.text :: q, List.forall_mem_cons.mpr ⟨trivial, hq⟩, ?_,
        .member (Table.mem_of_get? hx) hat⟩
      rw [List.map_cons, List.map_cons, htexts]
      rfl
    | null | bool | number | string => cases hx

/-! ## Spellings of a name -/

/-- A name that can stand after a point, in brackets and in quotes as it is. -/
def Bare (name : String) : Prop :=
  name ≠ "" ∧ ∀ c ∈ name.toList, c ∉ ['.', '[', ']', '"', '\'', '\\']

namespace Bare
variable {name : String} {c : Char}

theorem ne_nil (h : Bare name) : name.toList ≠ [] := by simpa using h.1

theorem flat (h : Bare name) (hc : c ∈ name.toList) : c ≠ '.' ∧ c ≠ '[' ∧ c ≠ ']' := by
  have := h.2 c hc
  simp_all

theorem not_escaped (h : Bare name) (hc : c ∈ name.toList) : ¬(c = '"' ∨ c = '\\') := by
  have := h.2 c hc
  simp_all

theorem not_quote (h : Bare name) (hc : c ∈ name.toList) : ¬IsQuote c := by
  have := h.2 c hc
  simp_all [IsQuote]

end Bare

theorem plainSegment_text (cs : List Char) : (plainSegment cs).text = String.ofList cs := by
  have hreads := (reads_iff cs (plainSegment cs)).mpr rfl
  cases h : plainSegment cs with
  | index n =>
    rw [h] at hreads
    rw [hreads.2, String.ofList_toList]
    rfl
  | key name =>
    rw [h] at hreads
    rw [← hreads.1, String.ofList_toList]
    rfl

section
variable {t name : String} (ht : parse t = .ok p) (hname : Bare name)
include ht hname

theorem parse_dotted : parse (t ++ "." ++ name) = .ok (p.child (plainSegment name.toList)) := by
  obtain ⟨d, hd, rfl⟩ := (parseChars_eq_ok_iff _ _).mp ht
  let key : PlainKey := ⟨name.toList, hname.ne_nil, fun _ => hname.flat⟩
  refine (parseChars_eq_ok_iff _ _).mpr ⟨d.snoc (.dotted (.plain key)), ?_, d.snoc_path _⟩
  simp [hd, key, Continuation.text, Part.text]

theorem parse_bracketed :
    parse (t ++ "[" ++ name ++ "]") = .ok (p.child (plainSegment name.toList)) := by
  obtain ⟨d, hd, rfl⟩ := (parseChars_eq_ok_iff _ _).mp ht
  let group : Group := .unquoted name.toList hname.ne_nil (fun _ hc => (hname.flat hc).2)
    fun _ hc => hname.not_quote (List.mem_of_mem_head? hc)
  refine (parseChars_eq_ok_iff _ _).mpr ⟨d.snoc (.adjacent group), ?_, d.snoc_path _⟩
  simp [hd, group, Continuation.text, Group.text]

theorem parse_quoted : parse (t ++ "[\"" ++ name ++ "\"]") = .ok (p.child (.key name)) := by
  obtain ⟨d, hd, rfl⟩ := (parseChars_eq_ok_iff _ _).mp ht
  have hescaped : Segment.escaped name.toList = name.toList := by
    have hone : ∀ c ∈ name.toList, (if c = '"' ∨ c = '\\' then ['\\', c] else [c]) = [c] :=
      fun c hc => if_neg (hname.not_escaped hc)
    rw [Segment.escaped, List.flatMap_congr hone, List.flatMap_singleton']
  have hsegment : (quotedGroup name.toList).segment = .key name := by
    change Segment.key (String.ofList ((name.toList.map QuotedChar.ofChar).map QuotedChar.char)) = _
    rw [map_char_ofChar, String.ofList_toList]
  refine (parseChars_eq_ok_iff _ _).mpr
    ⟨d.snoc (.adjacent (quotedGroup name.toList)), ?_, ?_⟩
  · simp [hd, Continuation.text, quotedGroup_text, hescaped]
  · rw [d.snoc_path, ← hsegment]
    rfl

/-- The three spellings of a name lead to the same place. -/
theorem lookup?_spellings (v : Json) :
    ∃ dotted bracketed quoted : Path, parse (t ++ "." ++ name) = .ok dotted ∧
      parse (t ++ "[" ++ name ++ "]") = .ok bracketed ∧
      parse (t ++ "[\"" ++ name ++ "\"]") = .ok quoted ∧
      dotted.lookup? v = quoted.lookup? v ∧ bracketed.lookup? v = quoted.lookup? v := by
  have hdotted := parse_dotted ht hname
  have hquoted := parse_quoted ht hname
  have htexts : (p.child (plainSegment name.toList)).map Segment.text =
      (p.child (.key name)).map Segment.text := by
    simp only [child, List.map_append, List.map_singleton, plainSegment_text,
      String.ofList_toList]
    rfl
  have hsame := lookup?_eq_of_texts (fits_of_parse hdotted).1 (fits_of_parse hquoted).1 htexts v
  exact ⟨_, _, _, hdotted, parse_bracketed ht hname, hquoted, hsame, hsame⟩

end

/-- In every document, look-ups along paths with the same texts agree.  So the
spellings of a name after a point, in brackets and in quotes lead to one place.
What is found stands at a position that has these texts; and from the written path
of any position but the root a path is read that finds the value there. -/
theorem lookup_reads_texts (document : Json) :
    (∀ p q : Path, p.Fits → q.Fits → p.map Segment.text = q.map Segment.text →
      p.lookup? document = q.lookup? document) ∧
    (∀ (t name : String) (p : Path), parse t = .ok p → Bare name →
      ∃ dotted bracketed quoted : Path, parse (t ++ "." ++ name) = .ok dotted ∧
        parse (t ++ "[" ++ name ++ "]") = .ok bracketed ∧
        parse (t ++ "[\"" ++ name ++ "\"]") = .ok quoted ∧
        dotted.lookup? document = quoted.lookup? document ∧
        bracketed.lookup? document = quoted.lookup? document) ∧
    (∀ (p : Path) (v : Json), p.Fits → p.lookup? document = some v →
      ∃ q : Path, q.Fits ∧ q.map Segment.text = p.map Segment.text ∧ document.At q v) ∧
    (document.Distinct → ∀ (p : Path) (v : Json), p.Fits → p ≠ root → document.At p v →
      ∃ q : Path, parse p.text = .ok q ∧ q.lookup? document = some v) :=
  ⟨fun _ _ hp hq h => lookup?_eq_of_texts hp hq h document,
    fun _ _ _ ht hname => lookup?_spellings ht hname document,
    fun _ _ => exists_at_of_lookup?,
    fun hd p _ hp hne h => ⟨p, parse_text hp hne, lookup?_of_at hd h⟩⟩

/-- An object in an array, and keys that are decimals or look like them. -/
def decimals : Json :=
  .object [("a", .array [.object [("0", .bool true), ("007", .null)], .array [.string "x"]])]

/-- An index and the key of its decimal find the same item and the same member, in
whichever way they are spelled; a padded decimal is a key of its own and no index. -/
theorem decimals_found :
    lookup? [.key "a", .key "0", .index 0] decimals =
      lookup? [.key "a", .index 0, .key "0"] decimals ∧
    lookup? [.key "a", .index 0, .key "0"] decimals = some (.bool true) ∧
    Bare "0" ∧
    (∃ dotted bracketed quoted : Path, parse "a.0" = .ok dotted ∧
      parse "a[0]" = .ok bracketed ∧ parse "a[\"0\"]" = .ok quoted ∧
      dotted.lookup? decimals = quoted.lookup? decimals ∧
      bracketed.lookup? decimals = quoted.lookup? decimals) ∧
    decimals.Distinct ∧
    ∃ q : Path, parse (text [.key "a", .index 0, .key "007"]) = .ok q ∧
      q.lookup? decimals = some .null := by
  obtain ⟨hagree, hspellings, -, hposition⟩ := lookup_reads_texts decimals
  have hbare : Bare "0" := by simp [Bare]
  have hdistinct : decimals.Distinct := by simp [decimals, Table.keys]
  have hat : decimals.At [.key "a", .index 0, .key "007"] .null :=
    .member (List.mem_cons_self ..) (.item rfl (.member (by simp) (.here _)))
  exact ⟨hagree _ _ (by decide) (by decide) rfl, rfl, hbare,
    hspellings "a" "0" [.key "a"] (by decide) hbare, hdistinct,
    hposition hdistinct _ _ (by decide) (by decide) hat⟩

end Path
end Conform
