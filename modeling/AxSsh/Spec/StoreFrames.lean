import AxSsh.Native.SessionStore

/-!
# What the operations on a store leave alone

`ProfileFrame` says that two stores differ in one profile at most, and in the group that came with
it.  An edit of groups or profiles keeps everything else of a store, and every profile that it
does not name.

## Key results
- `upsert_frame`, `remove_frame`, `modify_frame`: the operations on one profile
- `applyAll_keeps`: what a sequence of edits keeps
-/

namespace AxSsh.Profiles

variable {ρ σ : Type}

/-- `after` is `before` up to the profile `id`, a group that came with it, and the settings. -/
structure ProfileFrame (id : Uuid) (before after : SessionStore ρ σ) : Prop where
  version : after.version = before.version
  recents : after.recentWorkspaces = before.recentWorkspaces
  groups : after.groups = before.groups ∨
    ∃ profile ∈ after.sessions, profile.id = id ∧
      after.groups = before.groups ++ [profile.groupName]
  others : after.sessions.filter (·.id ≠ id) = before.sessions.filter (·.id ≠ id)

/-- A frame does not see a change of the settings. -/
theorem ProfileFrame.withSettings {id : Uuid} {before after : SessionStore ρ σ}
    (h : ProfileFrame id before after) (settings : AppSettings σ) :
    ProfileFrame id { before with settings } after :=
  ⟨h.version, h.recents, h.groups, h.others⟩

namespace SessionStore

variable (store : SessionStore ρ σ)

/-! ## One profile -/

theorem modify_frame (id : Uuid) {f : SessionProfile ρ → SessionProfile ρ}
    (hf : ∀ profile, (f profile).id = profile.id) : ProfileFrame id store (store.modify id f) where
  version := rfl
  recents := rfl
  groups := .inl rfl
  others := List.filter_modifyKey_ne hf id store.sessions

theorem remove_frame (id : Uuid) : ProfileFrame id store (store.remove id) where
  version := rfl
  recents := rfl
  groups := .inl rfl
  others := by simp [remove, List.filter_filter]

@[simp] theorem version_upsert (profile : SessionProfile ρ) :
    (store.upsert profile).version = store.version := by
  simp only [upsert]

@[simp] theorem settings_upsert (profile : SessionProfile ρ) :
    (store.upsert profile).settings = store.settings := by
  simp only [upsert]

@[simp] theorem recentWorkspaces_upsert (profile : SessionProfile ρ) :
    (store.upsert profile).recentWorkspaces = store.recentWorkspaces := by
  simp only [upsert]

/-- The profile that `upsert` puts into the store. -/
theorem mem_upsert (profile : SessionProfile ρ) :
    { profile with groupName := normalizeGroupName profile.groupName } ∈
      (store.upsert profile).sessions := by
  simp only [upsert]
  split
  · rename_i hfound
    obtain ⟨old, hold⟩ := Option.isSome_iff_exists.mp hfound
    obtain ⟨l₁, l₂, -, hmod⟩ := List.exists_modifyKey hold fun _ =>
      { profile with groupName := normalizeGroupName profile.groupName }
    rw [hmod]
    exact List.mem_append_right l₁ List.mem_cons_self
  · exact List.mem_append_right _ List.mem_cons_self

theorem upsert_frame (profile : SessionProfile ρ) :
    ProfileFrame profile.id store (store.upsert profile) where
  version := store.version_upsert profile
  recents := store.recentWorkspaces_upsert profile
  groups := by
    by_cases hnew : normalizeGroupName profile.groupName ≠ "" ∧
        normalizeGroupName profile.groupName ∉ store.groups
    · right
      refine ⟨_, store.mem_upsert profile, rfl, ?_⟩
      simp only [upsert, if_pos hnew]
    · left
      simp only [upsert, if_neg hnew]
  others := by
    simp only [upsert]
    split
    · rename_i hfound
      -- The rewrite is constant, so it keeps the key only of the profile that was found.
      obtain ⟨old, hold⟩ := Option.isSome_iff_exists.mp hfound
      have hid : old.id = profile.id := List.key_of_findKey hold
      obtain ⟨l₁, l₂, heq, hmod⟩ := List.exists_modifyKey hold fun _ =>
        { profile with groupName := normalizeGroupName profile.groupName }
      rw [hmod, heq, List.filter_append, List.filter_append,
        List.filter_cons_of_neg (by simp), List.filter_cons_of_neg (by simp [hid])]
    · rw [List.filter_append, List.filter_cons_of_neg (by simp), List.filter_nil, List.append_nil]

end SessionStore

/-! ## Edits -/

namespace StoreEdit

/-- The profiles an edit may change. -/
def Touches (profile : SessionProfile ρ) : StoreEdit ρ → Prop
  | .upsert new => profile.id = new.id
  | .addGroup _ => False
  | .renameGroup name _ | .removeGroup name =>
    normalizeGroupName profile.groupName = normalizeGroupName name

/-- `after` has the settings and the history of `before`, and its profiles but for those that
    are named. -/
structure Keeps (named : SessionProfile ρ → Prop) (before after : SessionStore ρ σ) : Prop where
  version : after.version = before.version
  settings : after.settings = before.settings
  recents : after.recentWorkspaces = before.recentWorkspaces
  profiles : ∀ profile ∈ before.sessions, ¬named profile → profile ∈ after.sessions

theorem Keeps.refl (named : SessionProfile ρ → Prop) (store : SessionStore ρ σ) :
    Keeps named store store :=
  ⟨rfl, rfl, rfl, fun _ hmem _ => hmem⟩

theorem Keeps.trans {named : SessionProfile ρ → Prop} {a b c : SessionStore ρ σ}
    (hab : Keeps named a b) (hbc : Keeps named b c) : Keeps named a c where
  version := hbc.version.trans hab.version
  settings := hbc.settings.trans hab.settings
  recents := hbc.recents.trans hab.recents
  profiles profile hmem hnot := hbc.profiles profile (hab.profiles profile hmem hnot) hnot

theorem Keeps.mono {named : SessionProfile ρ → Prop} {a b : SessionStore ρ σ}
    (h : Keeps named a b) (named' : SessionProfile ρ → Prop) (hnamed : ∀ profile, named profile → named' profile) :
    Keeps named' a b :=
  { h with profiles := fun profile hmem hnot =>
      h.profiles profile hmem fun hold => hnot (hnamed profile hold) }

/-- A map over the profiles that changes named ones only. -/
theorem keeps_map {named : SessionProfile ρ → Prop} {store : SessionStore ρ σ}
    {f : SessionProfile ρ → SessionProfile ρ} (hf : ∀ profile, ¬named profile → f profile = profile)
    (groups : List String) :
    Keeps named store { store with groups, sessions := store.sessions.map f } where
  version := rfl
  settings := rfl
  recents := rfl
  profiles profile hmem hnot := List.mem_map.mpr ⟨profile, hmem, hf profile hnot⟩

theorem apply_keeps {store store' : SessionStore ρ σ} {edit : StoreEdit ρ}
    (h : apply store edit = .ok store') : Keeps (edit.Touches ·) store store' := by
  cases edit with
  | upsert new =>
    obtain rfl : store.upsert new = store' := Except.ok.inj h
    refine ⟨store.version_upsert new, store.settings_upsert new, store.recentWorkspaces_upsert new,
      fun profile hmem hnot => ?_⟩
    -- a profile with another id is not replaced
    have hkept : profile ∈ store.sessions.filter (·.id ≠ new.id) :=
      List.mem_filter.mpr ⟨hmem, by simpa [Touches] using hnot⟩
    rw [← (store.upsert_frame new).others] at hkept
    exact (List.mem_filter.mp hkept).1
  | addGroup name =>
    simp only [apply, SessionStore.addGroup, bind, Except.bind] at h
    split at h
    · cases h
    · split at h
      · obtain rfl : store = store' := Except.ok.inj h
        exact .refl _ store
      · obtain rfl := Except.ok.inj h
        exact ⟨rfl, rfl, rfl, fun _ hmem _ => hmem⟩
  -- the guards of the source: two invalid names, the same name, a taken one, an unknown group
  | renameGroup oldName newName =>
    simp only [apply, SessionStore.renameGroup, bind, Except.bind] at h
    split at h
    · cases h
    split at h
    · cases h
    split at h
    · obtain rfl : store = store' := Except.ok.inj h
      exact .refl _ store
    split at h
    · cases h
    split at h
    · obtain rfl : store = store' := Except.ok.inj h
      exact .refl _ store
    · obtain rfl := Except.ok.inj h
      exact keeps_map (fun profile hnot => if_neg hnot) _
  | removeGroup name =>
    obtain rfl : (store.removeGroup name).1 = store' := Except.ok.inj h
    simp only [SessionStore.removeGroup]
    split
    · exact .refl _ store
    · exact keeps_map (fun profile hnot => if_neg hnot) _

theorem applyAll_keeps {edits : List (StoreEdit ρ)} {store store' : SessionStore ρ σ}
    (h : applyAll edits store = .ok store') :
    Keeps (fun profile => ∃ edit ∈ edits, edit.Touches profile) store store' := by
  induction edits generalizing store with
  | nil =>
    obtain rfl : store = store' := Except.ok.inj h
    exact .refl _ store
  | cons edit edits ih =>
    simp only [applyAll, List.foldlM_cons, bind, Except.bind] at h
    split at h
    · exact nomatch h
    · rename_i next hnext
      have hfirst := (apply_keeps hnext).mono (fun profile => ∃ e ∈ edit :: edits, e.Touches profile)
        fun _ ht => ⟨edit, List.mem_cons_self, ht⟩
      have hrest := (ih h).mono (fun profile => ∃ e ∈ edit :: edits, e.Touches profile)
        fun _ ⟨e, he, ht⟩ => ⟨e, List.mem_cons_of_mem _ he, ht⟩
      exact hfirst.trans hrest

end StoreEdit

end AxSsh.Profiles
