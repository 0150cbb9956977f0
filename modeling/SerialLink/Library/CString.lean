import SerialLink.Library.Region

/-!
# C strings and the arrays that hold them

`strncpy` stores exactly `count` bytes at its target: the characters of the
text, cut at `count`, and NULs behind a shorter text.  Whether the text fits
the array the target belongs to is not its concern.
-/

namespace SerialLink

/-- A NUL-terminated string, by the characters before its terminator. -/
structure CString where
  chars : List UInt8
  noNul : 0 ∉ chars
  deriving DecidableEq, Repr

namespace CString

/-- A string literal, up to its first NUL. -/
def ofString (text : String) : CString where
  chars := text.toUTF8.data.toList.takeWhile (· ≠ 0)
  noNul := by
    intro member
    have nonzero := List.all_takeWhile (p := fun char : UInt8 => char ≠ 0)
      (l := text.toUTF8.data.toList)
    simpa using List.all_eq_true.mp nonzero 0 member

def strlen (text : CString) : Nat :=
  text.chars.length

/-- The bytes that `strncpy` stores. -/
def padded (text : CString) (count : Nat) : List UInt8 :=
  text.chars.take count ++ List.replicate (count - text.strlen) 0

@[simp] theorem length_padded (text : CString) (count : Nat) :
    (text.padded count).length = count := by
  simp only [padded, strlen, List.length_append, List.length_take,
    List.length_replicate]
  omega

def strncpy (target : Nat → UInt8) (text : CString) (count : Nat) :
    Nat → UInt8 :=
  Region.store target 0 (text.padded count)

/-- Nothing behind the `count` bytes changes. -/
theorem strncpy_of_le (target : Nat → UInt8) (text : CString)
    {count index : Nat} (behind : count ≤ index) :
    strncpy target text count index = target index := by
  simp [strncpy, Region.store, List.getD_eq_getElem?_getD, behind]

theorem strncpy_of_lt (target : Nat → UInt8) (text : CString)
    {count index : Nat} (within : index < count) :
    strncpy target text count index = text.chars.getD index 0 := by
  simp only [strncpy, Region.store, Nat.zero_le, if_true, Nat.sub_zero,
    padded, strlen, List.getD_eq_getElem?_getD, List.getElem?_append,
    List.length_take, List.getElem?_take, List.getElem?_replicate]
  by_cases char : index < text.chars.length
  · have both : index < min count text.chars.length := by omega
    simp [both, within, char]
  · have neither : ¬index < min count text.chars.length := by omega
    have padding : index - min count text.chars.length <
        count - text.chars.length := by
      omega
    simp [neither, padding, char]

/-- A second copy of as many bytes hides the first. -/
@[simp] theorem strncpy_strncpy (target : Nat → UInt8)
    (first second : CString) (count : Nat) :
    strncpy (strncpy target first count) second count =
      strncpy target second count := by
  funext index
  by_cases within : index < count
  · rw [strncpy_of_lt _ _ within, strncpy_of_lt _ _ within]
  · have behind : count ≤ index := by omega
    rw [strncpy_of_le _ _ behind, strncpy_of_le _ _ behind,
      strncpy_of_le _ _ behind]

/-- An array of characters holds a string where one of them is NUL. -/
def Terminated (array : List UInt8) : Prop :=
  0 ∈ array

instance (array : List UInt8) : Decidable (Terminated array) :=
  inferInstanceAs (Decidable (0 ∈ array))

theorem terminated_slice_iff (region : Nat → UInt8) (size : Nat) :
    Terminated (Region.slice region 0 size) ↔
      ∃ index < size, region index = 0 := by
  simp [Terminated, Region.slice]

/-- An array that is longer than what is copied keeps its last NUL. -/
theorem terminated_of_count_lt {target : Nat → UInt8} {count size : Nat}
    (text : CString) (room : count < size) (last : target count = 0) :
    Terminated (Region.slice (strncpy target text count) 0 size) := by
  rw [terminated_slice_iff]
  refine ⟨count, room, ?_⟩
  rw [strncpy_of_le _ _ (Nat.le_refl count), last]

/-- An array that `strncpy` fills whole holds a string exactly where the text
and its terminator fit. -/
theorem terminated_iff_strlen_lt (target : Nat → UInt8) (text : CString)
    {count size : Nat} (covered : size ≤ count) :
    Terminated (Region.slice (strncpy target text count) 0 size) ↔
      text.strlen < size := by
  rw [terminated_slice_iff]
  constructor
  · rintro ⟨index, within, nul⟩
    rw [strncpy_of_lt _ _ (Nat.lt_of_lt_of_le within covered)] at nul
    -- A NUL among the characters would contradict that they have none.
    have past : text.chars.length ≤ index := by
      rw [← Nat.not_lt]
      intro char
      rw [List.getD_eq_getElem?_getD, List.getElem?_eq_getElem char,
        Option.getD_some] at nul
      exact text.noNul (nul ▸ List.getElem_mem char)
    exact Nat.lt_of_le_of_lt past within
  · intro fits
    refine ⟨text.strlen, fits, ?_⟩
    rw [strncpy_of_lt _ _ (Nat.lt_of_lt_of_le fits covered)]
    simp [strlen, List.getD_eq_getElem?_getD]

end CString

end SerialLink
