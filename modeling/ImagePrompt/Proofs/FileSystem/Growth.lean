import ImagePrompt.Proofs.FileSystem.Place
/-!
# File systems that grow

While directories and links stay, a path asks for a file at the same location.
Files may come and go meanwhile, and directories may be made.
-/

namespace ImagePrompt.FileSystem

/-- All that a path can lead through stays. -/
structure KeepsWays (fs fs' : FileSystem) : Prop where
  workingDirectory : fs'.workingDirectory = fs.workingDirectory
  directory : ∀ l, fs.node? l = some .directory → fs'.node? l = some .directory
  link : ∀ l target, fs.node? l = some (.link target) → fs'.node? l = some (.link target)

variable {fs fs' fs'' : FileSystem} {l m place : Location} {p : String}

namespace KeepsWays

theorem of_forall_some (hdirectory : fs'.workingDirectory = fs.workingDirectory)
    (h : ∀ l node, fs.node? l = some node → fs'.node? l = some node) : KeepsWays fs fs' :=
  ⟨hdirectory, fun l => h l _, fun l _ => h l _⟩

theorem put_free {node : Node} (hfree : fs.node? place = none) :
    KeepsWays fs (fs.put place node) :=
  of_forall_some workingDirectory_put fun _ _ => node?_put_of_free hfree

/-- Nothing leads through a file, so another node may stand in its place. -/
theorem of_file {bytes : List UInt8} (hfile : fs.node? place = some (.file bytes))
    (hdirectory : fs'.workingDirectory = fs.workingDirectory)
    (hother : ∀ l, place ≠ l → fs'.node? l = fs.node? l) : KeepsWays fs fs' := by
  have hne : ∀ {l node}, fs.node? l = some node → (∀ bytes, node ≠ .file bytes) → place ≠ l := by
    rintro l node hl hnode rfl
    exact hnode bytes (Option.some.inj (hl.symm.trans hfile))
  refine ⟨hdirectory, fun l hl => ?_, fun l target hl => ?_⟩
  · rw [hother l (hne hl (by simp)), hl]
  · rw [hother l (hne hl (by simp)), hl]

end KeepsWays

section Ways

variable {names : List String} {links left : Nat}

theorem Leads.of_keepsWays (hkeeps : KeepsWays fs fs') (h : Leads fs links l names left m) :
    Leads fs' links l names left m := by
  induction h with
  | nil hl => exact .nil (hkeeps.directory _ hl)
  | here hl _ ih => exact .here (hkeeps.directory _ hl) ih
  | up hl _ ih => exact .up (hkeeps.directory _ hl) ih
  | name hl hname _ ih => exact .name (hkeeps.directory _ hl) hname ih
  | link hl hname hnode _ ih =>
    exact .link (hkeeps.directory _ hl) hname (hkeeps.link _ _ hnode) ih

theorem place?_of_keepsWays (hkeeps : KeepsWays fs fs') (h : fs.place? p = some place) :
    fs'.place? p = some place := by
  obtain ⟨hslash, l, name, hparent, rfl⟩ := place?_eq_some_iff.1 h
  obtain ⟨hcheck, hname, before, left, hnames, hleads⟩ := locateParent_eq_ok_iff.1 hparent
  have hstart : fs'.start p = fs.start p := by
    unfold start
    rw [hkeeps.workingDirectory]
  refine place?_eq_some_iff.2 ⟨hslash, l, name, ?_, rfl⟩
  refine locateParent_eq_ok_iff.2 ⟨hcheck, hname, before, left, hnames, ?_⟩
  rw [hstart]
  exact hleads.of_keepsWays hkeeps

end Ways

/-! ## Directories made -/

/-- Directories have been made where nothing stood, and nothing else has changed. -/
structure GainsDirectories (fs fs' : FileSystem) : Prop where
  workingDirectory : fs'.workingDirectory = fs.workingDirectory
  node : ∀ l, fs'.node? l = fs.node? l ∨ fs.node? l = none ∧ fs'.node? l = some .directory

namespace GainsDirectories

theorem refl (fs : FileSystem) : GainsDirectories fs fs := ⟨rfl, fun _ => .inl rfl⟩

theorem trans (h : GainsDirectories fs fs') (h' : GainsDirectories fs' fs'') :
    GainsDirectories fs fs'' := by
  refine ⟨h'.workingDirectory.trans h.workingDirectory, fun l => ?_⟩
  rcases h.node l, h'.node l with ⟨hl | ⟨hnone, hl⟩, hl' | ⟨hnone', hl'⟩⟩
  · exact .inl (hl'.trans hl)
  · exact .inr ⟨hl.symm.trans hnone', hl'⟩
  · exact .inr ⟨hnone, hl'.trans hl⟩
  · exact .inr ⟨hnone, hl'⟩

theorem node_of_some {node : Node} (h : GainsDirectories fs fs') (hl : fs.node? l = some node) :
    fs'.node? l = some node := by
  rcases h.node l with heq | ⟨hnone, -⟩
  · exact heq.trans hl
  · rw [hl] at hnone
    cases hnone

theorem keepsWays (h : GainsDirectories fs fs') : KeepsWays fs fs' :=
  .of_forall_some h.workingDirectory fun _ _ => h.node_of_some

theorem put_directory (hfree : fs.node? l = none) : GainsDirectories fs (fs.put l .directory) := by
  refine ⟨workingDirectory_put, fun m => ?_⟩
  by_cases hm : l = m
  · subst hm
    exact .inr ⟨hfree, by simp [node?_put]⟩
  · exact .inl (by simp [node?_put, hm])

theorem of_makeDirectory (h : fs.makeDirectory p = .ok fs') : GainsDirectories fs fs' := by
  unfold makeDirectory at h
  obtain ⟨⟨l, last⟩, -, h⟩ := Success.bind_eq_ok.1 h
  match last with
  | none => simp at h
  | some name =>
    by_cases htaken : (fs.node? (l ++ [name])).isSome
    · simp [htaken] at h
    · simp only [if_neg htaken, Success.pure_eq_ok] at h
      exact h ▸ put_directory (by simpa using htaken)

theorem makeEach (fs : FileSystem) (paths : List String) :
    GainsDirectories fs (fs.makeEach paths).1 := by
  fun_induction FileSystem.makeEach fs paths with
  | case1 => exact refl _
  | case2 _ _ _ _ hmade ih => exact (of_makeDirectory hmade).trans ih
  | case3 _ _ _ _ _ _ ih => exact ih
  | case4 => exact refl _

theorem makeUpwards (fs : FileSystem) (pending paths : List String) :
    GainsDirectories fs (fs.makeUpwards pending paths).1 := by
  fun_induction FileSystem.makeUpwards fs pending paths with
  | case1 => exact makeEach _ _
  | case2 => exact makeEach _ _
  | case3 _ _ _ _ _ hmade => exact (of_makeDirectory hmade).trans (makeEach _ _)
  | case4 _ _ _ _ _ ih => exact ih
  | case5 => exact makeEach _ _
  | case6 => exact refl _

theorem makeDirectories (fs : FileSystem) (p : String) :
    GainsDirectories fs (fs.makeDirectories p).1 := makeUpwards _ _ _

theorem of_makeDirectories {result : Except FileError Unit}
    (h : fs.makeDirectories p = (fs', result)) : GainsDirectories fs fs' := by
  have hdirectories := makeDirectories fs p
  rwa [h] at hdirectories

end GainsDirectories

/-! ## A file made -/

/-- A file stands where nothing stood before. -/
def NewFile (fs fs' : FileSystem) (l : Location) : Prop :=
  fs.node? l = none ∧ ∃ bytes, fs'.node? l = some (.file bytes)

theorem not_newFile_self : ¬ NewFile fs fs l := by
  rintro ⟨hfree, bytes, hfile⟩
  rw [hfree] at hfile
  cases hfile

theorem GainsDirectories.not_newFile (h : GainsDirectories fs fs') : ¬ NewFile fs fs' l := by
  rintro ⟨hfree, bytes, hfile⟩
  rcases h.node l with heq | ⟨-, hdirectory⟩
  · exact not_newFile_self ⟨hfree, bytes, heq ▸ hfile⟩
  · rw [hdirectory] at hfile
    cases hfile

/-- One file is new, directories have been made where nothing stood, and nothing else has
changed. -/
structure GainsFile (fs fs' : FileSystem) (l : Location) (bytes : List UInt8) : Prop where
  workingDirectory : fs'.workingDirectory = fs.workingDirectory
  free : fs.node? l = none
  file : fs'.node? l = some (.file bytes)
  other : ∀ m, l ≠ m →
    fs'.node? m = fs.node? m ∨ fs.node? m = none ∧ fs'.node? m = some .directory

namespace GainsFile

variable {bytes content : List UInt8}

theorem of_put (h : GainsDirectories fs fs') (hfree : fs'.node? l = none) :
    GainsFile fs (fs'.put l (.file bytes)) l bytes where
  workingDirectory := h.workingDirectory
  free := by
    rcases h.node l with heq | ⟨hnone, -⟩
    · exact heq.symm.trans hfree
    · exact hnone
  file := by simp [node?_put]
  other m hm := by
    rw [node?_put, if_neg hm]
    exact h.node m

theorem put (h : GainsFile fs fs' l content) : GainsFile fs (fs'.put l (.file bytes)) l bytes where
  workingDirectory := h.workingDirectory
  free := h.free
  file := by simp [node?_put]
  other m hm := by
    rw [node?_put, if_neg hm]
    exact h.other m hm

theorem delete (h : GainsFile fs fs' l bytes) : GainsDirectories fs (fs'.delete l) where
  workingDirectory := h.workingDirectory
  node m := by
    rw [node?_delete]
    by_cases hm : l = m
    · subst hm
      rw [if_pos rfl]
      exact .inl h.free.symm
    · rw [if_neg hm]
      exact h.other m hm

/-- The file is the only one that is new. -/
theorem newFile_iff (h : GainsFile fs fs' l bytes) : NewFile fs fs' m ↔ m = l := by
  constructor
  · rintro ⟨hfree, content, hfile⟩
    by_contra hne
    rcases h.other m (Ne.symm hne) with heq | ⟨-, hdirectory⟩
    · exact not_newFile_self ⟨hfree, content, heq ▸ hfile⟩
    · rw [hdirectory] at hfile
      cases hfile
  · rintro rfl
    exact ⟨h.free, bytes, h.file⟩

theorem keepsWays (h : GainsFile fs fs' l bytes) : KeepsWays fs fs' := by
  refine .of_forall_some h.workingDirectory fun m node hm => ?_
  have hne : l ≠ m := by
    rintro rfl
    rw [h.free] at hm
    cases hm
  rcases h.other m hne with heq | ⟨hnone, -⟩
  · exact heq.trans hm
  · rw [hm] at hnone
    cases hnone

theorem keepsWays_put (h : GainsFile fs fs' l content) :
    KeepsWays fs' (fs'.put l (.file bytes)) :=
  .of_file h.file workingDirectory_put fun _ hm => by rw [node?_put, if_neg hm]

end GainsFile

end ImagePrompt.FileSystem
