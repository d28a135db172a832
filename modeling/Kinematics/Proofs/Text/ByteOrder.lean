/-!
# The order of names

Names are ordered by their characters. Their bytes are ordered alike, because a character is
encoded by a smaller byte where its encoding first differs from that of a larger one.
-/

namespace Kinematics

/-- The bytes of a text in UTF-8. -/
def bytes (s : String) : List UInt8 := s.toUTF8.data.toList

theorem bytes_eq_flatMap (s : String) : bytes s = s.toList.flatMap String.utf8EncodeChar := by
  change s.toByteArray.data.toList = _
  rw [← String.utf8Encode_toList, List.utf8Encode, List.data_toByteArray, List.toList_toArray]

private theorem ofNat_cons_lt {m n : Nat} {xs ys : List UInt8} (hn : n < 256)
    (h : m < n ∨ m = n ∧ xs < ys) : UInt8.ofNat m :: xs < UInt8.ofNat n :: ys := by
  rw [List.cons_lt_cons_iff]
  obtain hlt | ⟨heq, hrest⟩ := h
  · left
    rw [UInt8.lt_iff_toNat_lt, UInt8.toNat_ofNat_of_lt' (Nat.lt_trans hlt hn),
      UInt8.toNat_ofNat_of_lt' hn]
    exact hlt
  · exact .inr ⟨congrArg UInt8.ofNat heq, hrest⟩

private theorem continuation_lt {m n : Nat} {xs ys : List UInt8} (h : m < n ∨ m = n ∧ xs < ys) :
    m / 64 < n / 64 ∨ m / 64 = n / 64 ∧
      UInt8.ofNat (m % 64 + 128) :: xs < UInt8.ofNat (n % 64 + 128) :: ys := by
  -- the last six bits count only where all bits before them are the same
  by_cases hbefore : m / 64 < n / 64
  · exact .inl hbefore
  · exact .inr ⟨by omega, ofNat_cons_lt (by omega) (h.imp (by omega) fun ⟨heq, hrest⟩ =>
      ⟨by rw [heq], hrest⟩)⟩

private theorem lead_lt {m n k b : Nat} {xs ys : List UInt8} (hn : n < k) (hb : k + b ≤ 256)
    (h : m < n ∨ m = n ∧ xs < ys) :
    UInt8.ofNat (m % k + b) :: xs < UInt8.ofNat (n % k + b) :: ys := by
  have hm : m < k := by omega
  rw [Nat.mod_eq_of_lt hm, Nat.mod_eq_of_lt hn]
  exact ofNat_cons_lt (by omega) (h.imp (by omega) fun ⟨heq, hrest⟩ => ⟨by rw [heq], hrest⟩)

/-- Whatever follows, a character comes before a larger one. -/
theorem utf8EncodeChar_append_lt {c d : Char} (h : c < d) (xs ys : List UInt8) :
    String.utf8EncodeChar c ++ xs < String.utf8EncodeChar d ++ ys := by
  have hval : c.val.toNat < d.val.toNat := h
  have hbound : d.val.toNat < 1114112 := by
    obtain hlow | ⟨-, hhigh⟩ := d.valid
    · exact Nat.lt_trans hlow (by decide)
    · exact hhigh
  unfold String.utf8EncodeChar
  dsimp only
  generalize c.val.toNat = m at hval
  generalize d.val.toNat = n at hval hbound
  have hlow (k : Nat) : k / 4096 = k / 64 / 64 := by omega
  have htop (k : Nat) : k / 262144 = k / 64 / 64 / 64 := by omega
  -- the larger character does not have the shorter encoding
  by_cases hm : m ≤ 127
  · rw [if_pos hm]
    split
    case isTrue => exact ofNat_cons_lt (by omega) (.inl hval)
    case isFalse =>
      split
      case isTrue => exact ofNat_cons_lt (by omega) (.inl (by omega))
      case isFalse => split <;> exact ofNat_cons_lt (by omega) (.inl (by omega))
  · rw [if_neg hm, if_neg (show ¬n ≤ 127 by omega)]
    by_cases hm : m ≤ 2047
    · rw [if_pos hm]
      split
      case isTrue =>
        exact lead_lt (by omega) (by decide) (continuation_lt (.inl hval))
      case isFalse => split <;> exact ofNat_cons_lt (by omega) (.inl (by omega))
    · rw [if_neg hm, if_neg (show ¬n ≤ 2047 by omega)]
      by_cases hm : m ≤ 65535
      · rw [if_pos hm]
        split
        case isTrue =>
          rw [hlow m, hlow n]
          exact lead_lt (by omega) (by decide) (continuation_lt (continuation_lt (.inl hval)))
        case isFalse => exact ofNat_cons_lt (by omega) (.inl (by omega))
      · rw [if_neg hm, if_neg (show ¬n ≤ 65535 by omega), hlow m, hlow n, htop m, htop n]
        exact lead_lt (by omega) (by decide)
          (continuation_lt (continuation_lt (continuation_lt (.inl hval))))

private theorem flatMap_lt {cs ds : List Char} (h : cs < ds) :
    cs.flatMap String.utf8EncodeChar < ds.flatMap String.utf8EncodeChar := by
  induction h with
  | @nil d ds =>
    rw [List.flatMap_nil, List.flatMap_cons]
    obtain ⟨b, bs, hencoded⟩ := List.exists_cons_of_ne_nil (String.utf8EncodeChar_ne_nil (c := d))
    rw [hencoded]
    exact List.nil_lt_cons b _
  | rel hlt =>
    rw [List.flatMap_cons, List.flatMap_cons]
    exact utf8EncodeChar_append_lt hlt _ _
  | cons _ ih =>
    rw [List.flatMap_cons, List.flatMap_cons]
    exact List.append_left_lt ih

theorem bytes_lt_iff {s t : String} : bytes s < bytes t ↔ s < t := by
  have hmono {s t : String} (h : s < t) : bytes s < bytes t := by
    rw [bytes_eq_flatMap, bytes_eq_flatMap]
    exact flatMap_lt h
  refine ⟨fun h => ?_, hmono⟩
  obtain hlt | rfl | hgt := Std.lt_trichotomy s t
  · exact hlt
  · exact absurd h (List.lt_irrefl _)
  · exact absurd (hmono hgt) (List.lt_asymm h)

end Kinematics
