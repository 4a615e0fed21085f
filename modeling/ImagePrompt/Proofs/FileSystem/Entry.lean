import ImagePrompt.Proofs.FileSystem.Growth
import ImagePrompt.Proofs.FileSystem.Path
/-!
# Entries of directories

A path that leads to a directory, and the entry that a name behind it asks for.
A directory that has been made, or that is there already, is led to.
-/

namespace ImagePrompt.FileSystem

variable {fs fs' : FileSystem} {l m top place : Location} {p q name : String}
  {xs ys names : List String} {links left : Nat}

/-- Names that lead somewhere can be parted at any point of the way. -/
theorem Leads.split (h : Leads fs links l (xs ++ ys) left m) :
    ∃ between middle, Leads fs links l xs between middle ∧ Leads fs between middle ys left m := by
  generalize hnames : xs ++ ys = names at h
  induction h generalizing xs with
  | nil hl =>
    obtain ⟨rfl, rfl⟩ := List.append_eq_nil_iff.1 hnames
    exact ⟨_, _, .nil hl, .nil hl⟩
  | here hl hrest ih =>
    rcases List.append_eq_cons_iff.1 hnames with ⟨rfl, rfl⟩ | ⟨xs, rfl, hrest'⟩
    · exact ⟨_, _, .nil hl, .here hl hrest⟩
    · obtain ⟨between, middle, hbefore, hbehind⟩ := ih hrest'.symm
      exact ⟨between, middle, .here hl hbefore, hbehind⟩
  | up hl hrest ih =>
    rcases List.append_eq_cons_iff.1 hnames with ⟨rfl, rfl⟩ | ⟨xs, rfl, hrest'⟩
    · exact ⟨_, _, .nil hl, .up hl hrest⟩
    · obtain ⟨between, middle, hbefore, hbehind⟩ := ih hrest'.symm
      exact ⟨between, middle, .up hl hbefore, hbehind⟩
  | name hl hname hrest ih =>
    rcases List.append_eq_cons_iff.1 hnames with ⟨rfl, rfl⟩ | ⟨xs, rfl, hrest'⟩
    · exact ⟨_, _, .nil hl, .name hl hname hrest⟩
    · obtain ⟨between, middle, hbefore, hbehind⟩ := ih hrest'.symm
      exact ⟨between, middle, .name hl hname hbefore, hbehind⟩
  | @link links left l m name target rest hl hname hnode hrest ih =>
    rcases List.append_eq_cons_iff.1 hnames with ⟨rfl, rfl⟩ | ⟨xs, rfl, hrest'⟩
    · exact ⟨_, _, .nil hl, .link hl hname hnode hrest⟩
    · -- The names of the target come before what is left of the first part.
      have hparts : (Path.names target ++ xs) ++ ys = Path.names target ++ rest := by
        rw [hrest', List.append_assoc]
      obtain ⟨between, middle, hbefore, hbehind⟩ := ih hparts
      exact ⟨between, middle, .link hl hname hnode hbefore, hbehind⟩

theorem Leads.unique {left' : Nat} (h : Leads fs links l names left m)
    (h' : Leads fs links l names left' top) : m = top := by
  have hwalk := h.walk_eq.symm.trans h'.walk_eq
  exact congrArg Place.location (Except.ok.inj hwalk)

/-- A name that leads on from a directory is that of one of its entries. -/
theorem Leads.entry (h : Leads fs links l (name :: names) left m) (hhere : name ≠ ".")
    (hup : name ≠ "..") : ∃ node, fs.node? (l ++ [name]) = some node ∧ NodeName name := by
  cases h with
  | here => exact absurd rfl hhere
  | up => exact absurd rfl hup
  | name _ hname hrest => exact ⟨_, hrest.directory_left, hname⟩
  | link _ hname hnode => exact ⟨_, hnode, hname⟩

/-- A path leads to a directory. The empty path leads to the working directory. -/
structure Opens (fs : FileSystem) (p : String) (top : Location) : Prop where
  checked : p = "" ∨ checkPath p = .ok ()
  leads : ∃ left, Leads fs maxLinks (fs.start p) (Path.names p) left top

namespace Opens

theorem of_keepsWays (hkeeps : KeepsWays fs fs') (h : fs.Opens p top) : fs'.Opens p top := by
  obtain ⟨left, hleads⟩ := h.leads
  have hstart : fs'.start p = fs.start p := by
    unfold start
    rw [hkeeps.workingDirectory]
  exact ⟨h.checked, left, hstart ▸ hleads.of_keepsWays hkeeps⟩

theorem start_join (hrelative : Path.isAbsolute name = false) :
    fs.start (Path.join p name) = fs.start p := by
  unfold start
  rw [Path.isAbsolute_join hrelative]

/-! ## The entry behind a name -/

theorem place?_join (h : fs.Opens p top) (hname : NodeName name) (hempty : name ≠ "")
    (hslash : '/' ∉ name.toList) (hcheck : checkPath (Path.join p name) = .ok ()) :
    fs.place? (Path.join p name) = some (top ++ [name]) := by
  obtain ⟨left, hleads⟩ := h.leads
  have hrelative := Path.isAbsolute_of_notMem hslash
  have hnames : Path.names (Path.join p name) = Path.names p ++ [name] := by
    rw [Path.names_join hrelative, Path.names_of_notMem hslash hempty]
  have hend : Path.endsInSlash (Path.join p name) = false := by
    rw [Path.endsInSlash_join hrelative hempty, Path.endsInSlash_of_notMem hslash]
  refine place?_eq_some_iff.2 ⟨hend, top, name, ?_, rfl⟩
  refine locateParent_eq_ok_iff.2 ⟨hcheck, hname, Path.names p, left, hnames, ?_⟩
  rwa [start_join hrelative]

/-- A name without a slash asks for an entry of the directory itself. -/
theorem eq_entry_of_notMem (h : fs.Opens p top) (hempty : name ≠ "") (hslash : '/' ∉ name.toList)
    (hplace : fs.place? (Path.join p name) = some place) : place = top ++ [name] := by
  obtain ⟨left, hleads⟩ := h.leads
  have hrelative := Path.isAbsolute_of_notMem hslash
  obtain ⟨-, l, last, hparent, rfl⟩ := place?_eq_some_iff.1 hplace
  obtain ⟨-, -, before, left', hnames, hbefore⟩ := locateParent_eq_ok_iff.1 hparent
  rw [Path.names_join hrelative, Path.names_of_notMem hslash hempty] at hnames
  obtain ⟨rfl, rfl⟩ : Path.names p = before ∧ name = last := by simpa using hnames
  rw [start_join hrelative] at hbefore
  rw [hleads.unique hbefore]

/-- A path that goes on behind a directory goes on through one of its entries. -/
theorem exists_node_of_names {front : String} (h : fs.Opens p top)
    (hrelative : Path.isAbsolute name = false) (hnames : Path.names name = front :: names)
    (hmore : names ≠ []) (hhere : front ≠ ".") (hup : front ≠ "..")
    (hplace : fs.place? (Path.join p name) = some place) :
    ∃ node, fs.node? (top ++ [front]) = some node := by
  obtain ⟨left, hleads⟩ := h.leads
  obtain ⟨behind, last, rfl⟩ := (List.eq_nil_or_concat' names).resolve_left hmore
  obtain ⟨-, l, last', hparent, -⟩ := place?_eq_some_iff.1 hplace
  obtain ⟨-, -, before, left', hjoined, hbefore⟩ := locateParent_eq_ok_iff.1 hparent
  have hparts : (Path.names p ++ front :: behind) ++ [last] = before ++ [last'] := by
    rw [← hjoined, Path.names_join hrelative, hnames, List.append_assoc, List.cons_append]
  obtain ⟨rfl, -⟩ := List.append_inj' hparts rfl
  rw [start_join hrelative] at hbefore
  obtain ⟨between, middle, hfirst, hrest⟩ := hbefore.split
  obtain rfl := hleads.unique hfirst
  obtain ⟨node, hnode, -⟩ := hrest.entry hhere hup
  exact ⟨node, hnode⟩

/-- In an empty directory nothing leads further down, so a name with a slash asks for nothing. -/
theorem eq_entry_of_empty {c : Char} {cs : List Char} (h : fs.Opens p top)
    (hnone : ∀ entry, fs.node? (top ++ [entry]) = none) (hchars : name.toList = c :: cs)
    (hdot : c ≠ '.') (hc : c ≠ '/') (hplace : fs.place? (Path.join p name) = some place) :
    place = top ++ [name] := by
  have hempty : name ≠ "" := by
    rintro rfl
    cases hchars
  by_cases hslash : '/' ∈ name.toList
  case neg => exact h.eq_entry_of_notMem hempty hslash hplace
  exfalso
  obtain ⟨front, back, hcut, hnames, hhere, hup⟩ :=
    Path.exists_names_eq_cons hslash hchars hc hdot
  have hrelative : Path.isAbsolute name = false := by simp [Path.isAbsolute, hchars, hc]
  -- Something is named behind the first slash, for the path does not end there.
  have hmore : Path.names back ≠ [] := by
    intro hnil
    have hend := (place?_eq_some_iff.1 hplace).1
    rw [Path.endsInSlash_join hrelative hempty, hcut, Path.endsInSlash_of_names_eq_nil hnil] at hend
    cases hend
  obtain ⟨node, hnode⟩ := h.exists_node_of_names hrelative hnames hmore hhere hup hplace
  rw [hnone] at hnode
  cases hnode

end Opens

/-! ## Directories that are there -/

theorem Leads.append {between : Nat} (h : Leads fs links l xs between m)
    (h' : Leads fs between m ys left top) : Leads fs links l (xs ++ ys) left top := by
  induction h with
  | nil => exact h'
  | here hl _ ih => exact .here hl (ih h')
  | up hl _ ih => exact .up hl (ih h')
  | name hl hname _ ih => exact .name hl hname (ih h')
  | link hl hname hnode _ ih =>
    refine .link hl hname hnode ?_
    have hrest := ih h'
    rwa [List.append_assoc] at hrest

theorem locateParent_of_leads (hcheck : checkPath p = .ok ())
    (hleads : Leads fs maxLinks (fs.start p) (Path.names p).dropLast left m)
    (hlast : (Path.names p).getLast?.filter (fun name => name != "." && name != "..") = none) :
    fs.locateParent p = .ok (m, none) := by
  unfold FileSystem.locateParent
  refine Success.bind_eq_ok.2 ⟨(), hcheck, Success.bind_eq_ok.2 ⟨_, hleads.walk_eq, ?_⟩⟩
  rw [hlast]
  rfl

namespace Opens

theorem locateParent (h : fs.Opens p top) (hp : p ≠ "") :
    ∃ middle last, fs.locateParent p = .ok (middle, last) ∧
      ∀ name, last = some name → (fs.node? (middle ++ [name])).isSome = true := by
  have hcheck := h.checked.resolve_left hp
  obtain ⟨left, hleads⟩ := h.leads
  rcases List.eq_nil_or_concat' (Path.names p) with hnil | ⟨before, last, hlast⟩
  · rw [hnil] at hleads
    have hbefore : Leads fs maxLinks (fs.start p) (Path.names p).dropLast maxLinks (fs.start p) := by
      rw [hnil]
      exact .nil hleads.directory_left
    exact ⟨fs.start p, none, locateParent_of_leads hcheck hbefore (by simp [hnil]), by simp⟩
  · rw [hlast] at hleads
    obtain ⟨between, middle, hbefore, hend⟩ := hleads.split
    by_cases hdots : last ≠ "." ∧ last ≠ ".."
    · obtain ⟨node, hnode, hname⟩ := hend.entry hdots.1 hdots.2
      refine ⟨middle, some last, locateParent_eq_ok_iff.2 ?_, ?_⟩
      · exact ⟨hcheck, hname, before, between, hlast, hbefore⟩
      · rintro _ ⟨⟩
        rw [hnode]
        rfl
    · have hfilter : (Path.names p).getLast?.filter (fun name => name != "." && name != "..") =
          none := by
        rw [hlast, List.getLast?_concat, Option.filter_eq_none_iff]
        rintro _ ⟨⟩ hboth
        exact hdots (by simpa using hboth)
      have hbefore' : Leads fs maxLinks (fs.start p) (Path.names p).dropLast between middle := by
        rwa [hlast, List.dropLast_concat]
      exact ⟨middle, none, locateParent_of_leads hcheck hbefore' hfilter, by simp⟩

theorem makeDirectory (h : fs.Opens p top) (hp : p ≠ "") :
    fs.makeDirectory p = .error .occupied := by
  obtain ⟨middle, last, hparent, htaken⟩ := h.locateParent hp
  unfold FileSystem.makeDirectory
  rw [hparent]
  cases last with
  | none => rfl
  | some name => simp [bind, Except.bind, htaken name rfl]

theorem isDirectory (h : fs.Opens p top) (hp : p ≠ "") : fs.isDirectory p = true := by
  obtain ⟨left, hleads⟩ := h.leads
  have hend : fs.walk true left top (if Path.endsInSlash p then ["."] else []) =
      .ok ⟨top, some .directory⟩ := by
    split
    · rw [walk_here hleads.directory_right, walk, hleads.directory_right]
    · rw [walk, hleads.directory_right]
  have hlocate : fs.locate p = .ok ⟨top, some .directory⟩ := by
    unfold locate
    rw [h.checked.resolve_left hp]
    exact (hleads.walk_append _).trans hend
  unfold FileSystem.isDirectory find
  rw [hlocate]
  rfl

/-- Where a directory is there already, none is made. -/
theorem makeDirectories (h : fs.Opens p top) : fs.makeDirectories p = (fs, .ok ()) := by
  unfold FileSystem.makeDirectories Path.ancestors
  rw [makeUpwards]
  by_cases hp : p = ""
  · simp [hp, makeEach]
  · simp [hp, h.makeDirectory hp, h.isDirectory hp, makeEach]

theorem of_isDirectory (h : fs.isDirectory p = true) : ∃ top, fs.Opens p top := by
  unfold FileSystem.isDirectory at h
  split at h
  case h_2 => cases h
  rename_i l hfind
  unfold find at hfind
  obtain ⟨⟨l', node⟩, hlocate, hnode⟩ := Success.bind_eq_ok.1 hfind
  unfold locate at hlocate
  obtain ⟨⟨⟩, hcheck, hwalk⟩ := Success.bind_eq_ok.1 hlocate
  cases node with
  | none => cases hnode
  | some node =>
    obtain ⟨rfl, rfl⟩ : l' = l ∧ node = .directory := by simpa [Success.pure_eq_ok] using hnode
    obtain ⟨left, hleads⟩ := leads_of_walk hwalk
    obtain ⟨between, middle, hbefore, -⟩ := hleads.split
    exact ⟨middle, .inr hcheck, between, hbefore⟩

theorem of_makeDirectory (h : fs.makeDirectory p = .ok fs') : ∃ top, fs'.Opens p top := by
  unfold FileSystem.makeDirectory at h
  obtain ⟨⟨l, last⟩, hparent, h⟩ := Success.bind_eq_ok.1 h
  match last with
  | none => simp at h
  | some name =>
    by_cases htaken : (fs.node? (l ++ [name])).isSome
    · simp [htaken] at h
    simp only [if_neg htaken, Success.pure_eq_ok] at h
    subst h
    obtain ⟨hcheck, hname, before, left, hnames, hbefore⟩ := locateParent_eq_ok_iff.1 hparent
    have hkeeps : KeepsWays fs (fs.put (l ++ [name]) .directory) :=
      .put_free (by simpa using htaken)
    have hlast : (fs.put (l ++ [name]) .directory).node? (l ++ [name]) = some .directory := by
      simp [node?_put]
    have hbefore' := hbefore.of_keepsWays hkeeps
    refine ⟨l ++ [name], .inr hcheck, left, ?_⟩
    rw [hnames]
    exact hbefore'.append (.name hbefore'.directory_right hname (.nil hlast))

theorem of_makeEach {paths : List String} (h : (fs.makeEach paths).2 = .ok ()) :
    ∀ p ∈ paths, ∃ top, (fs.makeEach paths).1.Opens p top := by
  fun_induction FileSystem.makeEach fs paths with
  | case1 => simp
  | case2 fs p rest made hmade ih =>
    obtain ⟨top, htop⟩ := of_makeDirectory hmade
    refine List.forall_mem_cons.2 ⟨⟨top, ?_⟩, ih h⟩
    exact htop.of_keepsWays (GainsDirectories.makeEach made rest).keepsWays
  | case3 fs p rest e hmade hthere ih =>
    obtain ⟨-, hdirectory⟩ : _ ∧ fs.isDirectory p = true := by simpa using hthere
    obtain ⟨top, htop⟩ := of_isDirectory hdirectory
    refine List.forall_mem_cons.2 ⟨⟨top, ?_⟩, ih h⟩
    exact htop.of_keepsWays (GainsDirectories.makeEach fs rest).keepsWays
  | case4 => cases h

theorem of_makeUpwards {pending paths : List String}
    (h : (fs.makeUpwards pending paths).2 = .ok ()) :
    ∀ p ∈ pending, ∃ top, (fs.makeUpwards pending paths).1.Opens p top := by
  fun_induction FileSystem.makeUpwards fs pending paths with
  | case1 => exact of_makeEach h
  | case2 => exact of_makeEach h
  | case3 => exact of_makeEach h
  | case4 _ _ _ _ _ ih => exact fun p hp => ih h p (.tail _ hp)
  | case5 => exact of_makeEach h
  | case6 => cases h

/-- A directory that has been made is led to. -/
theorem of_makeDirectories (hp : p ≠ "") (h : fs.makeDirectories p = (fs', .ok ())) :
    ∃ top, fs'.Opens p top := by
  have hp' : (p == "") = false := by simpa using hp
  unfold FileSystem.makeDirectories Path.ancestors at h
  rw [makeUpwards, hp', if_neg Bool.false_ne_true] at h
  split at h
  case h_1 made hmade =>
    obtain rfl : made = fs' := by simpa [makeEach] using h
    exact of_makeDirectory hmade
  case h_2 =>
    have hfs : (fs.makeUpwards [p] (Path.above (Path.components p).length p)).1 = fs' := by rw [h]
    exact hfs ▸ of_makeUpwards (by rw [h]) p List.mem_cons_self
  case h_3 e _ _ =>
    by_cases hthere : (e == .occupied && fs.isDirectory p) = true
    · obtain ⟨-, hdirectory⟩ : _ ∧ fs.isDirectory p = true := by simpa using hthere
      obtain rfl : fs = fs' := by simpa [hthere, makeEach] using h
      exact of_isDirectory hdirectory
    · rw [if_neg hthere] at h
      cases h

end Opens

end ImagePrompt.FileSystem
