import Mathlib

/-!
# Identities

Every party of the signaling server is named by a `std::string`: a nine-digit device id, a
temporary controller (`web-…`, `cli-…`) or a passwordless alias `C-…` of another id. The kind of an
id is read off its prefix, always with `id.rfind(prefix, 0) == 0`.
-/

namespace CrossDesk

/-- A `std::string`, as the bytes that it is. -/
abbrev ByteString := List UInt8

/-- The bytes of a text. -/
def utf8Bytes (text : String) : ByteString := text.toUTF8.data.toList

/-- `s.rfind(p, 0) == 0`: the text `s` begins with `p`. -/
def startsWith (s p : String) : Bool := p.toList.isPrefixOf s.toList

/-- The two kinds under which a temporary controller registers. -/
def isTemporaryControllerRegistration (id : String) : Bool := id == "web" || id == "cli"

/-- An identity handed out to a temporary controller. -/
def isTemporaryControllerId (id : String) : Bool := startsWith id "web-" || startsWith id "cli-"

/-- `id.rfind("C-", 0) == 0`: a passwordless alias. -/
def isAlias (id : String) : Bool := startsWith id "C-"

/-- `id.substr(n)`. -/
def substrFrom (id : String) (n : Nat) : String := String.ofList (id.toList.drop n)

/-- The identity an alias claims: the text after its `C-`. -/
def aliasBase (id : String) : String := substrFrom id 2

/-- `ValidDeviceCredentials`. -/
def validDeviceCredentials (deviceId password : String) : Bool :=
  deviceId.utf8ByteSize ≤ 128 && password.utf8ByteSize ≤ 256 && '\x00' ∉ deviceId.toList &&
    '\x00' ∉ password.toList

theorem startsWith_iff {s p : String} : startsWith s p = true ↔ ∃ t, s = p ++ t := by
  unfold startsWith
  rw [List.isPrefixOf_iff_prefix]
  constructor
  · rintro ⟨t, ht⟩
    exact ⟨String.ofList t, String.toList_inj.mp (by simp [ht])⟩
  · rintro ⟨t, rfl⟩
    exact ⟨t.toList, by simp⟩

/-- Stripping the two characters of `C-` undoes prepending them. -/
theorem aliasBase_append (id : String) : aliasBase ("C-" ++ id) = id := by
  apply String.toList_inj.mp
  simp [aliasBase, substrFrom]

/-- An alias is its prefix followed by its base. -/
theorem eq_append_aliasBase {id : String} (h : isAlias id = true) : id = "C-" ++ aliasBase id := by
  obtain ⟨t, rfl⟩ := startsWith_iff.mp h
  rw [aliasBase_append]

end CrossDesk
