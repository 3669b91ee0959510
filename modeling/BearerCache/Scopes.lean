import BearerCache.Json.Record
import BearerCache.Json.Value
import BearerCache.NameMap
import BearerCache.Text.Blank

/-! # Scope sets

A non-empty set of scopes.  A scope is a text without blanks, so a set can be written as its
scopes in increasing order, separated by single spaces: its *normal text*.  Two lists with
the same scopes, in whatever order and however often, make the same set. -/

namespace BearerCache

/-- Why a list or a text is not a scope set. -/
inductive ScopeFault where
  /-- There is no scope, or one is empty. -/
  | empty
  /-- A scope has a blank in it. -/
  | blank (scope : String)
  deriving DecidableEq, Repr

namespace ScopeFault

/-- The wording of a fault. -/
def message : ScopeFault → String
  | empty => "Scope list cannot be empty."
  | blank scope => s!"Scope contains whitespace: {scope}."

/-- A fault in JSON. -/
def toJson : ScopeFault → Json.Value
  | empty => .text "Empty"
  | blank scope => .object [("ContainsWhitespace", .object [("scope", .text scope)])]

/-- Reads a fault from JSON. -/
def reader : Json.Reader ScopeFault :=
  .choice
    [("Empty", .bare empty),
      ("ContainsWhitespace", .holding
        (.record "struct variant ScopeValidationError::ContainsWhitespace"
          [.of "scope" id (fun scope _ => scope) .text] none
          fun scope => (Json.required "scope" scope).map blank))]

end ScopeFault

/-- What is wrong with a text as a scope. -/
def scopeFault? (s : String) : Option ScopeFault :=
  if s.toList = [] then some .empty
  else if s.toList.any Text.isBlank then some (.blank s)
  else none

/-- A set of scopes. -/
structure Scopes where
  elements : List String
  nonempty : elements ≠ []
  /-- The scopes increase, by code point. -/
  sorted : elements.Pairwise (· < ·)
  valid : ∀ s ∈ elements, scopeFault? s = none
  deriving DecidableEq

namespace Scopes

/-- Puts a text into an increasing list, once. -/
def insertOnce (s : String) : List String → List String
  | [] => [s]
  | t :: rest => if s < t then s :: t :: rest else if s = t then t :: rest else t :: insertOnce s rest

/-- The texts of a list in increasing order, each once. -/
def normalOrder (xs : List String) : List String :=
  xs.foldr insertOnce []

theorem mem_insertOnce {s x : String} {ts : List String} :
    x ∈ insertOnce s ts ↔ x = s ∨ x ∈ ts := by
  induction ts with
  | nil => simp [insertOnce]
  | cons t rest ih =>
    unfold insertOnce
    split
    · simp
    split
    next heq => subst heq; simp
    · simp only [List.mem_cons, ih]
      exact or_left_comm

theorem mem_normalOrder {x : String} {xs : List String} : x ∈ normalOrder xs ↔ x ∈ xs := by
  induction xs with
  | nil => rfl
  | cons y ys ih =>
    rw [normalOrder, List.foldr_cons, mem_insertOnce, ← normalOrder, ih, List.mem_cons]

theorem sorted_insertOnce (s : String) {ts : List String} (h : ts.Pairwise (· < ·)) :
    (insertOnce s ts).Pairwise (· < ·) := by
  induction ts with
  | nil => exact List.pairwise_singleton _ _
  | cons t rest ih =>
    obtain ⟨ht, hrest⟩ := List.pairwise_cons.mp h
    unfold insertOnce
    split
    next hlt =>
      refine List.pairwise_cons.mpr ⟨fun x hx => ?_, h⟩
      rcases List.mem_cons.mp hx with rfl | hx
      · exact hlt
      · exact String.lt_trans hlt (ht x hx)
    next hlt =>
      split
      · exact h
      next hne =>
        refine List.pairwise_cons.mpr ⟨fun x hx => ?_, ih hrest⟩
        rcases mem_insertOnce.mp hx with rfl | hx
        · exact NameMap.lt_of_not_lt_of_ne hlt hne
        · exact ht x hx

theorem sorted_normalOrder (xs : List String) : (normalOrder xs).Pairwise (· < ·) := by
  induction xs with
  | nil => exact .nil
  | cons x xs ih => exact sorted_insertOnce x ih

/-- The set of the scopes of a list.  The first text that is no scope is the one reported. -/
def ofList (xs : List String) : Except ScopeFault Scopes :=
  match h : xs.findSome? scopeFault? with
  | some fault => .error fault
  | none =>
    if hne : xs = [] then .error .empty
    else
      .ok
        { elements := normalOrder xs
          nonempty := by
            obtain ⟨x, hx⟩ := List.exists_mem_of_ne_nil xs hne
            exact List.ne_nil_of_mem (mem_normalOrder.mpr hx)
          sorted := sorted_normalOrder xs
          valid := fun s hs => List.findSome?_eq_none_iff.mp h s (mem_normalOrder.mp hs) }

/-- The set of the words of a text. -/
def ofText (s : String) : Except ScopeFault Scopes :=
  ofList (Text.words s)

/-- The scopes in increasing order, separated by single spaces. -/
def normalText (scopes : Scopes) : String :=
  " ".intercalate scopes.elements

/-- Scope sets are compared scope by scope, by code points. -/
def order (a b : Scopes) : Ordering :=
  compare a.elements b.elements

/-- A scope set as it is shown in the description of a value. -/
def describe (scopes : Scopes) : String :=
  Text.wrapped "ScopeSet" (Text.listed (scopes.elements.map Text.quoted))

/-- A scope set in JSON: its normal text. -/
def toJson (scopes : Scopes) : Json.Value :=
  .text scopes.normalText

/-- Reads a scope set from JSON. -/
def reader : Json.Reader Scopes :=
  Json.Reader.text.refine fun s => (ofText s).mapError ScopeFault.message

end Scopes

end BearerCache
