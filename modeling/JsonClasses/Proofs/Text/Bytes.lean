import Mathlib.Data.List.Basic
import Mathlib.Data.String.Basic

/-!
# The bytes of a text

Texts are ordered by their characters in the same way as by their UTF-8 bytes: of two characters the
greater one has the greater byte where their bytes first differ.
-/
namespace JsonClasses.Text

def bytes (s : String) : List UInt8 := s.toUTF8.data.toList

theorem bytes_eq_flatMap (s : String) : bytes s = s.toList.flatMap String.utf8EncodeChar := by
  have hencoded : s.toByteArray = s.toList.utf8Encode := by
    rw [← String.toByteArray_ofList, String.ofList_toList]
  rw [bytes, String.toUTF8_eq_toByteArray, hencoded, List.utf8Encode, List.toList_data_toByteArray]

/-! ## The bytes of a character -/

section Bytes

variable {m n : Nat} {cs ds : List UInt8}

/-- A byte that is no greater is less, or what follows it decides. -/
theorem byte_cons_lt (hle : m ≤ n) (hn : n < 256) (h : m = n → cs < ds) :
    UInt8.ofNat m :: cs < UInt8.ofNat n :: ds := by
  rw [List.cons_lt_cons_iff, UInt8.lt_iff_toNat_lt, UInt8.toNat_ofNat', UInt8.toNat_ofNat']
  obtain hlt | rfl := Nat.lt_or_eq_of_le hle
  · exact .inl (by omega)
  · exact .inr ⟨rfl, h rfl⟩

/-- Two code points that differ in their last six bits only. -/
theorem last_lt (h : m < n) (hsame : m / 64 = n / 64) :
    UInt8.ofNat (m % 64 + 128) :: cs < UInt8.ofNat (n % 64 + 128) :: ds :=
  byte_cons_lt (by omega) (by omega) fun hlast => absurd hlast (by omega)

theorem lastTwo_lt (h : m < n) (hsame : m / 4096 = n / 4096) :
    UInt8.ofNat (m / 64 % 64 + 128) :: UInt8.ofNat (m % 64 + 128) :: cs <
      UInt8.ofNat (n / 64 % 64 + 128) :: UInt8.ofNat (n % 64 + 128) :: ds :=
  byte_cons_lt (by omega) (by omega) fun hmiddle => last_lt h (by omega)

theorem lastThree_lt (h : m < n) (hsame : m / 262144 = n / 262144) :
    UInt8.ofNat (m / 4096 % 64 + 128) :: UInt8.ofNat (m / 64 % 64 + 128) ::
        UInt8.ofNat (m % 64 + 128) :: cs <
      UInt8.ofNat (n / 4096 % 64 + 128) :: UInt8.ofNat (n / 64 % 64 + 128) ::
        UInt8.ofNat (n % 64 + 128) :: ds :=
  byte_cons_lt (by omega) (by omega) fun hmiddle => lastTwo_lt h (by omega)

end Bytes

theorem utf8EncodeChar_lt {c d : Char} (h : c < d) (cs ds : List UInt8) :
    String.utf8EncodeChar c ++ cs < String.utf8EncodeChar d ++ ds := by
  have hlt : c.val.toNat < d.val.toNat := h
  have hmax : d.val.toNat < 0x110000 := by
    obtain h | h := d.valid <;> omega
  simp only [String.utf8EncodeChar]
  generalize c.val.toNat = m at *
  generalize d.val.toNat = n at *
  -- A character that takes fewer bytes than the other has the lesser first byte.
  have hshorter : ∀ {i j : Nat} {is js : List UInt8}, i < j → j < 256 →
      UInt8.ofNat i :: is ++ cs < UInt8.ofNat j :: js ++ ds :=
    fun hij hj => byte_cons_lt hij.le hj fun heq => absurd heq hij.ne
  -- Where both take as many, the first bytes differ or the lower bits do.
  by_cases hone : m ≤ 127
  · rw [if_pos hone]
    split_ifs <;> exact hshorter (by omega) (by omega)
  rw [if_neg hone, if_neg (by omega : ¬ n ≤ 127)]
  by_cases htwo : m ≤ 2047
  · rw [if_pos htwo]
    split_ifs
    · exact byte_cons_lt (by omega) (by omega) fun hfirst => last_lt hlt (by omega)
    all_goals exact hshorter (by omega) (by omega)
  rw [if_neg htwo, if_neg (by omega : ¬ n ≤ 2047)]
  by_cases hthree : m ≤ 65535
  · rw [if_pos hthree]
    split_ifs
    · exact byte_cons_lt (by omega) (by omega) fun hfirst => lastTwo_lt hlt (by omega)
    · exact hshorter (by omega) (by omega)
  rw [if_neg hthree, if_neg (by omega : ¬ n ≤ 65535)]
  exact byte_cons_lt (by omega) (by omega) fun hfirst => lastThree_lt hlt (by omega)

/-! ## The order of texts -/

theorem flatMap_utf8EncodeChar_lt {cs ds : List Char} (h : cs < ds) :
    cs.flatMap String.utf8EncodeChar < ds.flatMap String.utf8EncodeChar := by
  induction cs generalizing ds with
  | nil =>
    cases ds with
    | nil => exact absurd h (List.lt_irrefl _)
    | cons d ds =>
      obtain ⟨b, bs, hd⟩ := List.exists_cons_of_ne_nil
        (List.ne_nil_of_length_pos (by rw [String.length_utf8EncodeChar]; exact d.utf8Size_pos))
      rw [List.flatMap_nil, List.flatMap_cons, hd]
      exact List.nil_lt_cons b _
  | cons c cs ih =>
    cases ds with
    | nil => exact absurd h (List.not_lt_nil _)
    | cons d ds =>
      rw [List.flatMap_cons, List.flatMap_cons]
      -- The first characters decide, or they agree and the rest decides.
      obtain hlt | ⟨rfl, hrest⟩ := List.cons_lt_cons_iff.mp h
      · exact utf8EncodeChar_lt hlt _ _
      · exact List.append_left_lt (ih hrest)

theorem bytes_lt_iff {s t : String} : bytes s < bytes t ↔ s < t := by
  have hlt : ∀ {s t : String}, s < t → bytes s < bytes t := by
    intro s t h
    rw [bytes_eq_flatMap, bytes_eq_flatMap]
    exact flatMap_utf8EncodeChar_lt (String.lt_iff_toList_lt.mp h)
  refine ⟨fun h => ?_, hlt⟩
  obtain hst | rfl | hts := lt_trichotomy s t
  · exact hst
  · exact absurd h (List.lt_irrefl _)
  · exact absurd h (List.lt_asymm (hlt hts))

theorem bytes_le_iff {s t : String} : bytes s ≤ bytes t ↔ s ≤ t := by
  rw [← not_lt, ← List.not_lt, bytes_lt_iff]

end JsonClasses.Text
