import Mathlib.Data.List.DropRight
import AxSsh.ForStd.Except
import AxSsh.Native.ProfileValidation

/-!
# What a successful validation says

Names of groups are normalized once and for all, and the checks on a profile that later proofs
need: its name of a group is one, and its credentials belong to its way of authentication.

## Key results
- `normalizeGroupName_idem`: normalizing twice is normalizing once
- `validateCredentials_of_validate`: what a valid profile says of its credentials
-/

namespace AxSsh

theorem bailIf_eq_ok_iff {condition : Bool} {message : String} {u : Unit} :
    bailIf condition message = .ok u ↔ condition = false := by
  cases condition with
  | true => exact ⟨nofun, nofun⟩
  | false => exact ⟨fun _ => rfl, fun _ => rfl⟩

/-! ## Names of groups -/

theorem toList_trim (text : String) :
    (trim text).toList = (text.toList.dropWhile isWhitespace).rdropWhile isWhitespace := by
  rw [trim, String.toList_ofList]
  rfl

/-- A text between two characters that are not white space is trimmed already. -/
theorem trim_eq_self_of_ends {text : String} {c d : Char} {l m : List Char}
    (hc : text.toList = c :: l) (hd : text.toList = m ++ [d]) (hcs : isWhitespace c = false)
    (hds : isWhitespace d = false) : trim text = text := by
  apply String.toList_inj.mp
  have hstart : text.toList.dropWhile isWhitespace = text.toList := by
    rw [hc, List.dropWhile_cons_of_neg (by simp [hcs])]
  rw [toList_trim, hstart, hd, List.rdropWhile_concat_neg _ _ _ (by simp [hds])]

@[simp] theorem trim_trim (text : String) : trim (trim text) = trim text := by
  apply String.toList_inj.mp
  rw [toList_trim, toList_trim]
  generalize text.toList = chars
  -- What is left begins with the character that stopped the first pass.
  have hstart : ((chars.dropWhile isWhitespace).rdropWhile isWhitespace).dropWhile isWhitespace =
      (chars.dropWhile isWhitespace).rdropWhile isWhitespace := by
    rw [List.dropWhile_eq_self_iff]
    intro hlen
    have hkept := List.rdropWhile_prefix isWhitespace (chars.dropWhile isWhitespace)
    rw [hkept.getElem hlen]
    have hne : chars.dropWhile isWhitespace ≠ [] := fun hnil => by
      rw [hnil, List.rdropWhile_nil] at hlen
      exact absurd hlen (Nat.lt_irrefl 0)
    rw [← List.head_eq_getElem hne]
    simp [List.head_dropWhile_not isWhitespace hne]
  rw [hstart, List.rdropWhile_idempotent]

namespace Profiles

@[simp] theorem normalizeGroupName_empty : normalizeGroupName "" = "" := by decide

@[simp] theorem normalizeGroupName_idem (value : String) :
    normalizeGroupName (normalizeGroupName value) = normalizeGroupName value := by
  unfold normalizeGroupName
  dsimp only
  split
  · exact normalizeGroupName_empty
  · rename_i hname
    rw [trim_trim, if_neg hname]

theorem validateGroupName_normalize (value : String) (allowEmpty : Bool) :
    validateGroupName (normalizeGroupName value) allowEmpty =
      validateGroupName value allowEmpty := by
  unfold validateGroupName
  rw [normalizeGroupName_idem]

theorem normalizeGroupName_ne_empty {value : String}
    (h : validateGroupName value false = .ok ()) : normalizeGroupName value ≠ "" := by
  unfold validateGroupName at h
  obtain ⟨_, hempty, -⟩ := Except.bind_eq_ok_iff.mp h
  simpa [bailIf_eq_ok_iff] using hempty

/-! ## Profiles -/

variable {ρ : Type} [ConnectionRest ρ]

theorem validateCredentials_of_validate {profile : SessionProfile ρ} {ssh : SshConfig ρ}
    (h : profile.validate = .ok ()) (hssh : profile.ssh = some ssh) :
    (ssh.credentialStorage ≠ none ∨ ssh.credentialVaultKeySaved → ssh.auth = .password) ∧
      (ssh.credentialVaultKeySaved → ssh.credentialStorage = some .encryptedVault) := by
  obtain ⟨_, -, h⟩ := Except.bind_eq_ok_iff.mp h
  obtain ⟨_, -, h⟩ := Except.bind_eq_ok_iff.mp h
  unfold SessionProfile.ssh at hssh
  split at hssh
  · rename_i config hconnection
    cases hssh
    rw [hconnection] at h
    obtain ⟨_, -, h⟩ := Except.bind_eq_ok_iff.mp h
    obtain ⟨_, -, h⟩ := Except.bind_eq_ok_iff.mp h
    obtain ⟨_, -, h⟩ := Except.bind_eq_ok_iff.mp h
    obtain ⟨_, h, -⟩ := Except.bind_eq_ok_iff.mp h
    obtain ⟨_, hauth, hvault⟩ := Except.bind_eq_ok_iff.mp h
    rw [bailIf_eq_ok_iff] at hauth hvault
    constructor
    · intro hcredentials
      by_contra hne
      simp [hne] at hauth
      grind
    · intro hsaved
      simpa [hsaved] using hvault
  · exact nomatch hssh

end Profiles

end AxSsh
