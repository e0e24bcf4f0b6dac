set_option autoImplicit false

namespace PlainQuiz.Access

structure OutOfRange where
  index : Nat
  length : Nat
  deriving DecidableEq, Repr

section Items

variable {α : Type} {items : List α} {index : Nat}

def item (items : List α) (index : Nat) : Except OutOfRange α :=
  match items[index]? with
  | some x => .ok x
  | none => .error ⟨index, items.length⟩

def replace (items : List α) (index : Nat) (x : α) : Except OutOfRange (List α) :=
  if index < items.length then .ok (items.set index x) else .error ⟨index, items.length⟩

theorem item_eq_ok_iff {x : α} : item items index = .ok x ↔ items[index]? = some x := by
  unfold item
  cases items[index]? <;> simp

theorem item_of_lt (within : index < items.length) : item items index = .ok items[index] :=
  item_eq_ok_iff.mpr (List.getElem?_eq_getElem within)

theorem replace_of_lt (within : index < items.length) (x : α) :
    replace items index x = .ok (items.set index x) := if_pos within

end Items

section Bind

variable {ε α β : Type} {next : α → Except ε β}

@[simp] theorem ok_bind (x : α) (next : α → Except ε β) : (Except.ok x >>= next) = next x := rfl

theorem exists_of_bind {first : Except ε α} {result : β} (done : (first >>= next) = .ok result) :
    ∃ x, first = .ok x ∧ next x = .ok result := by
  cases first with
  | error fault => contradiction
  | ok x => exact ⟨x, rfl, done⟩

end Bind

section Searches

variable {α ε : Type} {asked : α → Except ε Bool} {told : α → Bool} {places : List α}

theorem findM?_of_ok (read : ∀ x ∈ places, asked x = .ok (told x)) :
    places.findM? asked = .ok (places.find? told) := by
  induction places with
  | nil => rfl
  | cons x rest ih =>
    have later := ih fun y member => read y (List.mem_cons_of_mem x member)
    rw [List.findM?, read x List.mem_cons_self, List.find?_cons]
    cases told x with
    | true => rfl
    | false => exact later

theorem allM_of_ok (read : ∀ x ∈ places, asked x = .ok (told x)) :
    places.allM asked = .ok (places.all told) := by
  induction places with
  | nil => rfl
  | cons x rest ih =>
    have later := ih fun y member => read y (List.mem_cons_of_mem x member)
    rw [List.allM, read x List.mem_cons_self, List.all_cons]
    cases told x with
    | true => exact later
    | false => rfl

end Searches

end PlainQuiz.Access
