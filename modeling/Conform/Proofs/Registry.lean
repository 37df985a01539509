import Conform.Registry
import Conform.Proofs.Table
import Mathlib.Data.List.Induction
import Mathlib.Data.List.Sort
import Mathlib.Data.String.Basic

/-!
# Registries in use

A registry answers a run of operations.  Only a registration changes it, so its
state after a run is that of the registrations in the run, and each answer is the
one of a store in which the last write to a name wins.
-/
namespace Conform.Registry

/-- One use of a registry. -/
inductive Operation where
  | register (name : String) (schema : Node)
  | get (name : String)
  | validate (name : String) (input : Json)
  | validateWith (c : Catalog) (name : String) (input : Json)
  | snapshot

inductive Answer where
  | registered
  | schema (found : Except Failure Node)
  | verdict (verdict : Except Failure Unit)
  | entries (entries : List (String × Node))

namespace Operation

/-- The registry that an operation leaves. -/
def after (r : Registry) : Operation → Registry
  | .register name schema => r.register name schema
  | _ => r

def answer (matcher? : String → Option (String → Bool)) (r : Registry) : Operation → Answer
  | .register _ _ => .registered
  | .get name => .schema (r.find name)
  | .validate name input => .verdict (r.validate matcher? name input)
  | .validateWith c name input => .verdict (r.validateWith matcher? c name input)
  | .snapshot => .entries r.snapshot

/-- The operation is no registration. -/
def Reads : Operation → Prop
  | .register _ _ => False
  | _ => True

theorem after_eq_self {op : Operation} (h : op.Reads) (r : Registry) : op.after r = r := by
  cases op with
  | register name schema => cases h
  | _ => rfl

end Operation

/-- The registry after some operations. -/
def run (r : Registry) (ops : List Operation) : Registry := ops.foldl Operation.after r

def answersFrom (matcher? : String → Option (String → Bool)) :
    Registry → List Operation → List Answer
  | _, [] => []
  | r, op :: rest => op.answer matcher? r :: answersFrom matcher? (op.after r) rest

/-- The answers to a run of operations on an empty registry. -/
def answers (matcher? : String → Option (String → Bool)) (ops : List Operation) : List Answer :=
  answersFrom matcher? empty ops

/-- The name was registered, and this schema was the last one. -/
def Latest (ops : List Operation) (name : String) (schema : Node) : Prop :=
  ∃ before later, ops = before ++ .register name schema :: later ∧
    ∀ other, .register name other ∉ later

/-- The name was never registered. -/
def Unregistered (ops : List Operation) (name : String) : Prop :=
  ∀ schema, .register name schema ∉ ops

section
variable {ops : List Operation} {op : Operation} {name : String} {schema : Node}

theorem latest_concat : Latest (ops ++ [op]) name schema ↔
    op = .register name schema ∨ Latest ops name schema ∧ ∀ other, op ≠ .register name other := by
  constructor
  · rintro ⟨before, later, hops, hlater⟩
    rcases List.eq_nil_or_concat later with rfl | ⟨later, last, rfl⟩
    · obtain ⟨-, hop⟩ := List.append_inj' hops rfl
      exact .inl (by simpa using hop)
    · rw [List.concat_eq_append, ← List.cons_append, ← List.append_assoc] at hops
      obtain ⟨rfl, hop⟩ := List.append_inj' hops rfl
      obtain rfl : op = last := by simpa using hop
      simp only [List.concat_eq_append, List.mem_append, List.mem_singleton, not_or] at hlater
      exact .inr ⟨⟨before, later, rfl, fun other => (hlater other).1⟩,
        fun other h => (hlater other).2 h.symm⟩
  · rintro (rfl | ⟨⟨before, later, rfl, hlater⟩, hop⟩)
    · exact ⟨ops, [], rfl, by simp⟩
    · exact ⟨before, later ++ [op], by simp, fun other => by
        simpa [hlater other] using fun h => hop other h.symm⟩

theorem latest_unique {other : Node} (h : Latest ops name schema) (h' : Latest ops name other) :
    schema = other := by
  induction ops using List.reverseRecOn with
  | nil =>
    obtain ⟨before, later, hops, -⟩ := h
    simp at hops
  | append_singleton ops op ih =>
    rcases latest_concat.mp h with rfl | ⟨h, hop⟩
    · rcases latest_concat.mp h' with h' | ⟨-, hop⟩
      · cases h'
        rfl
      · exact absurd rfl (hop schema)
    · rcases latest_concat.mp h' with rfl | ⟨h', -⟩
      · exact absurd rfl (hop other)
      · exact ih h h'

theorem unregistered_iff : Unregistered ops name ↔ ∀ schema, ¬ Latest ops name schema := by
  constructor
  · rintro h schema ⟨before, later, rfl, -⟩
    exact h schema (by simp)
  · induction ops using List.reverseRecOn with
    | nil => simp [Unregistered]
    | append_singleton ops op ih =>
      intro h schema hmem
      have hop : ∀ other, op ≠ .register name other := fun other hop =>
        h other (latest_concat.mpr (.inl hop))
      have hops : Unregistered ops name := ih fun other hlatest =>
        h other (latest_concat.mpr (.inr ⟨hlatest, hop⟩))
      rcases List.mem_append.mp hmem with hmem | hmem
      · exact hops schema hmem
      · exact hop schema (List.mem_singleton.mp hmem).symm

end

/-- A registry holds what was registered last in the operations before. -/
structure Holds (r : Registry) (ops : List Operation) : Prop where
  nodup : r.schemas.keys.Nodup
  get? : ∀ name schema, r.get? name = some schema ↔ Latest ops name schema

namespace Holds
variable {r : Registry} {ops : List Operation}

theorem empty : Holds empty [] where
  nodup := List.nodup_nil
  get? name schema := by
    simp [Registry.get?, Registry.empty, Latest]

/-- One operation. -/
theorem after (h : Holds r ops) (op : Operation) : Holds (op.after r) (ops ++ [op]) where
  nodup := by
    cases op with
    | register name schema => exact Table.nodup_keys_insert h.nodup
    | _ => exact h.nodup
  get? name schema := by
    rw [latest_concat, ← h.get?]
    cases op with
    | register written new =>
      by_cases hname : written = name
      · subst hname
        simp [Operation.after, get?_register_self]
      · simp [Operation.after, get?_register_of_ne _ _ hname, hname]
    | _ => simp [Operation.after]

theorem run (h : Holds r ops) (more : List Operation) : Holds (r.run more) (ops ++ more) := by
  induction more generalizing r ops with
  | nil => rwa [List.append_nil]
  | cons op more ih =>
    have hrest := ih (h.after op)
    rwa [List.append_assoc] at hrest

theorem get?_eq_none_iff (h : Holds r ops) {name : String} :
    r.get? name = none ↔ Unregistered ops name := by
  simp [Option.eq_none_iff_forall_ne_some, unregistered_iff, ← h.get?]

/-- The listing has every name once. -/
theorem keys_snapshot (h : Holds r ops) : (r.snapshot.map Prod.fst).Pairwise (· < ·) := by
  have hsorted : r.snapshot.Pairwise fun a b => decide (a.1 ≤ b.1) = true :=
    List.pairwise_mergeSort
      (fun a b c hab hbc => by
        simp only [decide_eq_true_eq] at hab hbc ⊢
        exact le_trans hab hbc)
      (fun a b => by simpa using le_total a.1 b.1) r.schemas
  have hnodup : (r.snapshot.map Prod.fst).Nodup :=
    ((List.mergeSort_perm r.schemas _).map Prod.fst).nodup_iff.mpr h.nodup
  have hle : (r.snapshot.map Prod.fst).Pairwise (· ≤ ·) :=
    List.pairwise_map.mpr (hsorted.imp of_decide_eq_true)
  exact (hle.and hnodup).imp fun h => lt_of_le_of_ne h.1 h.2

theorem mem_snapshot (h : Holds r ops) {name : String} {schema : Node} :
    (name, schema) ∈ r.snapshot ↔ Latest ops name schema := by
  rw [snapshot, List.mem_mergeSort, ← Table.get?_eq_some_iff h.nodup]
  exact h.get? name schema

theorem find (h : Holds r ops) (name : String) :
    (∃ schema, Latest ops name schema ∧ r.find name = .ok schema) ∨
      Unregistered ops name ∧ r.find name = .error (.notRegistered name) := by
  cases hname : r.get? name with
  | none => exact .inr ⟨h.get?_eq_none_iff.mp hname, by simp [Registry.find, hname]⟩
  | some schema => exact .inl ⟨schema, (h.get? ..).mp hname, by simp [Registry.find, hname]⟩

end Holds

section
variable (matcher? : String → Option (String → Bool))

/-- The answers of a store in which the last write to a name wins. -/
inductive LastWrite (ops : List Operation) : Operation → Answer → Prop where
  | register (name : String) (schema : Node) :
      LastWrite ops (.register name schema) .registered
  | get {name : String} {schema : Node} (h : Latest ops name schema) :
      LastWrite ops (.get name) (.schema (.ok schema))
  | getNone {name : String} (h : Unregistered ops name) :
      LastWrite ops (.get name) (.schema (.error (.notRegistered name)))
  | validate {name : String} {schema : Node} (h : Latest ops name schema) (input : Json) :
      LastWrite ops (.validate name input) (.verdict
        ((Conform.validateWith matcher? Catalog.builtin schema input).mapError .invalid))
  | validateNone {name : String} (h : Unregistered ops name) (input : Json) :
      LastWrite ops (.validate name input) (.verdict (.error (.notRegistered name)))
  | validateWith {name : String} {schema : Node} (c : Catalog) (h : Latest ops name schema)
      (input : Json) : LastWrite ops (.validateWith c name input) (.verdict
        ((Conform.validateWith matcher? c schema input).mapError .invalid))
  | validateWithNone {name : String} (c : Catalog) (h : Unregistered ops name) (input : Json) :
      LastWrite ops (.validateWith c name input) (.verdict (.error (.notRegistered name)))
  | snapshot {entries : List (String × Node)}
      (sorted : (entries.map Prod.fst).Pairwise (· < ·))
      (mem : ∀ name schema, (name, schema) ∈ entries ↔ Latest ops name schema) :
      LastWrite ops .snapshot (.entries entries)

/-- What a store answers is determined by what was written. -/
theorem LastWrite.unique {ops : List Operation} {op : Operation} {a b : Answer}
    (ha : LastWrite matcher? ops op a) (hb : LastWrite matcher? ops op b) : a = b := by
  have hnone {name schema} (h : Latest ops name schema) (h' : Unregistered ops name) : False :=
    unregistered_iff.mp h' schema h
  cases ha with
  | register => cases hb; rfl
  | get h =>
    cases hb with
    | get h' => rw [latest_unique h h']
    | getNone h' => exact (hnone h h').elim
  | getNone h =>
    cases hb with
    | get h' => exact (hnone h' h).elim
    | getNone => rfl
  | validate h =>
    cases hb with
    | validate h' => rw [latest_unique h h']
    | validateNone h' => exact (hnone h h').elim
  | validateNone h =>
    cases hb with
    | validate h' => exact (hnone h' h).elim
    | validateNone => rfl
  | validateWith _ h =>
    cases hb with
    | validateWith _ h' => rw [latest_unique h h']
    | validateWithNone _ h' => exact (hnone h h').elim
  | validateWithNone _ h =>
    cases hb with
    | validateWith _ h' => exact (hnone h' h).elim
    | validateWithNone => rfl
  | @snapshot entries sorted mem =>
    cases hb with
    | @snapshot entries' sorted' mem' =>
      have heq : entries = entries' :=
        (List.pairwise_map.mp sorted).eq_of_mem_iff (List.pairwise_map.mp sorted') fun e =>
          (mem e.1 e.2).trans (mem' e.1 e.2).symm
      rw [heq]

/-- One answer, of a registry that holds what was registered before. -/
theorem Holds.lastWrite {r : Registry} {ops : List Operation} (h : Holds r ops)
    (op : Operation) : LastWrite matcher? ops op (op.answer matcher? r) := by
  cases op with
  | register name schema => exact .register name schema
  | snapshot => exact .snapshot h.keys_snapshot fun _ _ => h.mem_snapshot
  | get name =>
    simp only [Operation.answer]
    rcases h.find name with ⟨schema, hlatest, hfind⟩ | ⟨hnone, hfind⟩
    · rw [hfind]
      exact .get hlatest
    · rw [hfind]
      exact .getNone hnone
  | validate name input =>
    simp only [Operation.answer, Registry.validate, Registry.validateWith]
    rcases h.find name with ⟨schema, hlatest, hfind⟩ | ⟨hnone, hfind⟩
    · rw [hfind]
      exact .validate hlatest input
    · rw [hfind]
      exact .validateNone hnone input
  | validateWith c name input =>
    simp only [Operation.answer, Registry.validateWith]
    rcases h.find name with ⟨schema, hlatest, hfind⟩ | ⟨hnone, hfind⟩
    · rw [hfind]
      exact .validateWith c hlatest input
    · rw [hfind]
      exact .validateWithNone c hnone input

theorem answersFrom_append (r : Registry) (before later : List Operation) :
    answersFrom matcher? r (before ++ later) =
      answersFrom matcher? r before ++ answersFrom matcher? (r.run before) later := by
  induction before generalizing r with
  | nil => rfl
  | cons op before ih =>
    rw [List.cons_append, answersFrom, ih]
    rfl

theorem length_answersFrom (r : Registry) (ops : List Operation) :
    (answersFrom matcher? r ops).length = ops.length := by
  induction ops generalizing r with
  | nil => rfl
  | cons op ops ih => simp [answersFrom, ih]

/-- Every operation of a run gets one answer, the answer of a store in which the last
write wins; and without an operation that is no registration the other answers are
the same. -/
theorem answers_lastWrite (before later : List Operation) (op : Operation) :
    (answers matcher? (before ++ op :: later)).length = (before ++ op :: later).length ∧
    (∀ a, (answers matcher? (before ++ op :: later))[before.length]? = some a ↔
      LastWrite matcher? before op a) ∧
    (op.Reads → (answers matcher? (before ++ op :: later)).eraseIdx before.length =
      answers matcher? (before ++ later)) := by
  have hsplit : answers matcher? (before ++ op :: later) = answers matcher? before ++
      op.answer matcher? (run empty before) ::
        answersFrom matcher? (op.after (run empty before)) later :=
    answersFrom_append ..
  have hlength : (answers matcher? before).length = before.length := length_answersFrom ..
  have hholds : Holds (run empty before) before := Holds.empty.run before
  refine ⟨length_answersFrom .., fun a => ?_, fun hreads => ?_⟩
  · rw [hsplit, List.getElem?_append_right hlength.le, hlength, Nat.sub_self]
    simp only [List.getElem?_cons_zero, Option.some.injEq]
    exact ⟨fun h => h ▸ hholds.lastWrite matcher? op, (hholds.lastWrite matcher? op).unique⟩
  · rw [hsplit, List.eraseIdx_append_of_length_le hlength.le, hlength, Nat.sub_self,
      List.eraseIdx_cons_zero, op.after_eq_self hreads, answers, answers, answersFrom_append]

/-- A validation that fails between a new registration of `a` and two questions. -/
theorem answers_lastWrite_reregistered :
    (Operation.validate "a" .null).Reads ∧
    (answers (fun _ => none) [.register "a" (.tag "string"), .register "b" (.tag "number"),
      .register "a" (.tag "boolean"), .validate "a" .null, .get "a", .get "c"]).eraseIdx 3 =
    [.registered, .registered, .registered, .schema (.ok (.tag "boolean")),
      .schema (.error (.notRegistered "c"))] := by
  have h := (answers_lastWrite (fun _ => none)
    [.register "a" (.tag "string"), .register "b" (.tag "number"), .register "a" (.tag "boolean")]
    [.get "a", .get "c"] (.validate "a" .null)).2.2 trivial
  exact ⟨trivial, h.trans rfl⟩

end
end Conform.Registry
