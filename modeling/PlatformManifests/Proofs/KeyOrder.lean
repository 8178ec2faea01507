import Mathlib.Data.String.Basic
import Mathlib.Tactic.SplitIfs
import PlatformManifests.Proofs.Dictionary

/-!
The order of keys. Text is compared by code points, and its octets in UTF-8 compare alike: of two
characters the higher has a higher octet where they first differ. So the keys of a dictionary ascend
by octets too.
-/
namespace PlatformManifests

def octets (text : String) : List UInt8 := text.toUTF8.data.toList

theorem octets_eq (text : String) : octets text = text.toList.flatMap String.utf8EncodeChar := by
  have encoded : (String.ofList text.toList).toByteArray = text.toList.utf8Encode :=
    String.toByteArray_ofList
  rw [String.ofList_toList] at encoded
  rw [octets, String.toUTF8_eq_toByteArray, encoded, List.utf8Encode, List.data_toByteArray]

/-- Octets that are not lower decide, and if they are the same then the rest does. -/
theorem octet_cons_lt {first second : Nat} {rest further : List UInt8}
    (notLower : first ≤ second) (small : second < 256)
    (last : first = second → rest < further) :
    UInt8.ofNat first :: rest < UInt8.ofNat second :: further := by
  rw [List.cons_lt_cons_iff]
  rcases Nat.lt_or_eq_of_le notLower with less | same
  · exact .inl ((UInt8.ofNat_lt_iff_lt (less.trans small) small).mpr less)
  · exact .inr ⟨congrArg UInt8.ofNat same, last same⟩

theorem octet_lt {first second : Nat} {rest further : List UInt8} (less : first < second)
    (small : second < 256) : UInt8.ofNat first :: rest < UInt8.ofNat second :: further :=
  octet_cons_lt less.le small fun same => absurd same less.ne

/-- Whatever follows them, the octets of a lower character are below those of a higher one. -/
theorem utf8EncodeChar_append_lt {c d : Char} (below : c < d) (rest further : List UInt8) :
    String.utf8EncodeChar c ++ rest < String.utf8EncodeChar d ++ further := by
  have values : c.val.toNat < d.val.toNat := below
  have bound : d.val.toNat < 0x110000 := by
    have valid := d.valid
    simp only [UInt32.isValidChar, Nat.isValidChar] at valid
    omega
  simp only [String.utf8EncodeChar]
  generalize c.val.toNat = low at *
  generalize d.val.toNat = high at *
  -- Characters of different sizes differ in the first octet, others perhaps in a later one.
  split_ifs <;> try omega
  · exact octet_lt (by omega) (by omega)
  · exact octet_lt (by omega) (by omega)
  · exact octet_lt (by omega) (by omega)
  · exact octet_lt (by omega) (by omega)
  · refine octet_cons_lt (by omega) (by omega) fun lead => ?_
    exact octet_lt (by omega) (by omega)
  · exact octet_lt (by omega) (by omega)
  · exact octet_lt (by omega) (by omega)
  · refine octet_cons_lt (by omega) (by omega) fun lead => ?_
    refine octet_cons_lt (by omega) (by omega) fun second => ?_
    exact octet_lt (by omega) (by omega)
  · exact octet_lt (by omega) (by omega)
  · refine octet_cons_lt (by omega) (by omega) fun lead => ?_
    refine octet_cons_lt (by omega) (by omega) fun second => ?_
    refine octet_cons_lt (by omega) (by omega) fun third => ?_
    exact octet_lt (by omega) (by omega)

theorem flatMap_utf8EncodeChar_lt {text other : List Char} (below : text < other) :
    text.flatMap String.utf8EncodeChar < other.flatMap String.utf8EncodeChar := by
  induction text generalizing other with
  | nil =>
    cases other with
    | nil => exact absurd below (List.not_lt_nil [])
    | cons d rest =>
      have some : String.utf8EncodeChar d ++ rest.flatMap String.utf8EncodeChar ≠ [] :=
        List.append_ne_nil_of_left_ne_nil String.utf8EncodeChar_ne_nil _
      obtain ⟨first, others, split⟩ := List.exists_cons_of_ne_nil some
      rw [List.flatMap_nil, List.flatMap_cons, split]
      exact List.nil_lt_cons first others
  | cons c rest ih =>
    cases other with
    | nil => exact absurd below (List.not_lt_nil (c :: rest))
    | cons d further =>
      rw [List.flatMap_cons, List.flatMap_cons]
      rcases List.cons_lt_cons_iff.mp below with lower | ⟨rfl, later⟩
      · exact utf8EncodeChar_append_lt lower _ _
      · exact List.append_left_lt (ih later)

/-- Octets keep the order of texts. -/
theorem octets_lt {text other : String} (below : text < other) : octets text < octets other := by
  rw [octets_eq, octets_eq]
  exact flatMap_utf8EncodeChar_lt (String.lt_iff_toList_lt.mp below)

theorem Dict.octets_ascending {α : Type} (dict : Dict α) :
    (dict.keys.map octets).Pairwise (· < ·) := by
  rw [List.pairwise_map]
  exact dict.keys_ascending.imp octets_lt

end PlatformManifests
