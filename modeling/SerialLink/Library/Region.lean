/-!
# Byte regions addressed from their first element

A region is a total function from offsets, so that a store past the end of an
array is a store at its own offset and can be talked about.
-/

namespace SerialLink

namespace Region

variable {α : Type}

/-- Writing a list of elements at an offset. -/
def store (region : Nat → α) (offset : Nat) (items : List α) : Nat → α :=
  fun index =>
    if offset ≤ index then items.getD (index - offset) (region index)
    else region index

@[simp] theorem store_nil (region : Nat → α) (offset : Nat) :
    store region offset [] = region := by
  funext index
  simp [store]

/-- A store leaves what lies behind it. -/
theorem store_past (region : Nat → α) (items : List α) {index : Nat}
    (past : items.length ≤ index) :
    store region 0 items index = region index := by
  simp [store, List.getD_eq_getElem?_getD, past]

/-- Two stores one behind the other. -/
theorem store_append (region : Nat → α) (offset : Nat)
    (first second : List α) :
    store (store region offset first) (offset + first.length) second =
      store region offset (first ++ second) := by
  funext index
  by_cases within : offset ≤ index
  · by_cases behind : offset + first.length ≤ index
    · have past : first.length ≤ index - offset := by omega
      have apart : index - (offset + first.length) =
          index - offset - first.length := by omega
      simp [store, within, behind, List.getD_eq_getElem?_getD, past, apart,
        List.getElem?_append_right past]
    · have inside : index - offset < first.length := by omega
      simp [store, within, behind, List.getD_eq_getElem?_getD, inside,
        List.getElem?_append_left inside]
  · have before : ¬offset + first.length ≤ index := by omega
    simp [store, within, before]

/-- A store hides a shorter one at its offset. -/
theorem store_store {region : Nat → α} {offset : Nat} {first second : List α}
    (shorter : first.length ≤ second.length) :
    store (store region offset first) offset second =
      store region offset second := by
  funext index
  by_cases within : offset ≤ index
  · by_cases past : second.length ≤ index - offset
    · have behind : first.length ≤ index - offset := by omega
      simp [store, within, List.getD_eq_getElem?_getD, past, behind]
    · have inside : index - offset < second.length := by omega
      simp [store, within, List.getD_eq_getElem?_getD, inside]
  · simp [store, within]

/-- The `count` elements that start at an offset. -/
def slice (region : Nat → α) (offset count : Nat) : List α :=
  (List.range count).map fun index => region (offset + index)

@[simp] theorem length_slice (region : Nat → α) (offset count : Nat) :
    (slice region offset count).length = count := by
  simp [slice]

@[simp] theorem slice_zero (region : Nat → α) (offset : Nat) :
    slice region offset 0 = [] := rfl

theorem slice_append (region : Nat → α) (offset first second : Nat) :
    slice region offset (first + second) =
      slice region offset first ++ slice region (offset + first) second := by
  simp [slice, List.range_add, Function.comp_def, Nat.add_assoc]

/-- Reading back exactly what was written. -/
theorem slice_store_self (region : Nat → α) (offset : Nat) (items : List α) :
    slice (store region offset items) offset items.length = items := by
  apply List.ext_getElem
  · simp
  · intro index _ bound
    simp [slice, store, List.getD_eq_getElem?_getD, bound]

/-- A store leaves every earlier slice alone. -/
theorem slice_store_before (region : Nat → α) {offset start count : Nat}
    (items : List α) (before : start + count ≤ offset) :
    slice (store region offset items) start count =
      slice region start count := by
  apply List.map_congr_left
  intro index member
  have below : index < count := by simpa using member
  have outside : ¬offset ≤ start + index := by omega
  simp [store, outside]

/-- A store that ends before a slice leaves it alone. -/
theorem slice_store_after (region : Nat → α) {offset start count : Nat}
    (items : List α) (after : offset + items.length ≤ start) :
    slice (store region offset items) start count =
      slice region start count := by
  apply List.map_congr_left
  intro index _
  have within : offset ≤ start + index := by omega
  have past : items.length ≤ start + index - offset := by omega
  simp [store, within, List.getD_eq_getElem?_getD, past]

/-- A slice that starts with what was written. -/
theorem slice_store_start (region : Nat → α) (offset : Nat)
    (items : List α) {count : Nat} (fits : items.length ≤ count) :
    slice (store region offset items) offset count =
      items ++ slice region (offset + items.length)
        (count - items.length) := by
  have parts : count = items.length + (count - items.length) := by omega
  rw [parts, slice_append, slice_store_self,
    slice_store_after region items (Nat.le_refl _), Nat.add_sub_cancel_left]

/-- A region that holds the beginning of a list holds more of it with the
next piece. -/
theorem slice_store_extend {region : Nat → α} {items piece rest : List α}
    {count : Nat} (held : slice region 0 count = items.take count)
    (next : items.drop count = piece ++ rest) :
    slice (store region count piece) 0 (count + piece.length) =
      items.take (count + piece.length) := by
  have before : 0 + count ≤ count := Nat.le_of_eq (Nat.zero_add count)
  rw [slice_append, slice_store_before _ _ before, held, Nat.zero_add,
    slice_store_self, List.take_add, next, List.take_left]

theorem slice_const (value : α) (offset count : Nat) :
    slice (fun _ => value) offset count = List.replicate count value := by
  rw [slice, List.map_const', List.length_range]

end Region

end SerialLink
