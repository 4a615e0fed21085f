import ImagePrompt.Proofs.FileSystem.Basic
import ImagePrompt.Proofs.Success
/-!
# Where paths lead

Which names lead from one directory to another, and the location that a path
asks for a file at. Creating, removing and reading a file go by that location,
so no later proof walks a path again.
-/

namespace ImagePrompt.FileSystem

/-- Names lead from one directory to another and leave so many of the links that may be followed. -/
inductive Leads (fs : FileSystem) : Nat → Location → List String → Nat → Location → Prop
  | nil {links : Nat} {l : Location} (hl : fs.node? l = some .directory) :
      Leads fs links l [] links l
  | here {links left : Nat} {l m : Location} {rest : List String}
      (hl : fs.node? l = some .directory) (hrest : Leads fs links l rest left m) :
      Leads fs links l ("." :: rest) left m
  | up {links left : Nat} {l m : Location} {rest : List String}
      (hl : fs.node? l = some .directory) (hrest : Leads fs links l.dropLast rest left m) :
      Leads fs links l (".." :: rest) left m
  | name {links left : Nat} {l m : Location} {name : String} {rest : List String}
      (hl : fs.node? l = some .directory) (hname : NodeName name)
      (hrest : Leads fs links (l ++ [name]) rest left m) : Leads fs links l (name :: rest) left m
  | link {links left : Nat} {l m : Location} {name target : String} {rest : List String}
      (hl : fs.node? l = some .directory) (hname : NodeName name)
      (hnode : fs.node? (l ++ [name]) = some (.link target))
      (hrest : Leads fs links (if Path.isAbsolute target then [] else l)
        (Path.names target ++ rest) left m) :
      Leads fs (links + 1) l (name :: rest) left m

variable {fs fs' : FileSystem} {l m place : Location} {name p : String} {names rest : List String}
  {links left : Nat}

theorem Leads.directory_left (h : Leads fs links l names left m) :
    fs.node? l = some .directory := by
  cases h <;> assumption

theorem Leads.directory_right (h : Leads fs links l names left m) :
    fs.node? m = some .directory := by
  induction h with
  | nil hl => exact hl
  | here _ _ ih => exact ih
  | up _ _ ih => exact ih
  | name _ _ _ ih => exact ih
  | link _ _ _ _ ih => exact ih

theorem walk_here (hl : fs.node? l = some .directory) {follow : Bool} :
    fs.walk follow links l ("." :: rest) = fs.walk follow links l rest := by
  rw [walk]
  simp [hl]

theorem walk_up (hl : fs.node? l = some .directory) {follow : Bool} :
    fs.walk follow links l (".." :: rest) = fs.walk follow links l.dropLast rest := by
  rw [walk]
  simp [hl]

theorem walk_link (hl : fs.node? l = some .directory) (hname : NodeName name) {target : String}
    (hnode : fs.node? (l ++ [name]) = some (.link target)) :
    fs.walk true (links + 1) l (name :: rest) =
      fs.walk true links (if Path.isAbsolute target then [] else l)
        (Path.names target ++ rest) := by
  have hshort : ¬ 255 < name.utf8ByteSize := Nat.not_lt.2 hname.short
  rw [walk]
  simp [hl, hname.not_here, hname.not_up, hshort, hnode]

/-- A walk goes on from where its first names lead. -/
theorem Leads.walk_append (h : Leads fs links l names left m) (rest : List String) :
    fs.walk true links l (names ++ rest) = fs.walk true left m rest := by
  induction h with
  | nil => rfl
  | here hl _ ih => rw [List.cons_append, walk_here hl, ih]
  | up hl _ ih => rw [List.cons_append, walk_up hl, ih]
  | name hl hname hrest ih =>
    rw [List.cons_append, walk_name hl hname hrest.directory_left (by simp), ih]
  | link hl hname hnode _ ih =>
    rw [List.cons_append, walk_link hl hname hnode, ← ih, List.append_assoc]

theorem Leads.walk_eq (h : Leads fs links l names left m) :
    fs.walk true links l names = .ok ⟨m, some .directory⟩ := by
  have hwalk := h.walk_append []
  rwa [List.append_nil, walk, h.directory_right] at hwalk

theorem leads_of_walk (h : fs.walk true links l names = .ok ⟨m, some .directory⟩) :
    ∃ left, Leads fs links l names left m := by
  fun_induction FileSystem.walk fs true links l names with
  | case1 links l =>
    obtain ⟨rfl, hnode⟩ : l = m ∧ fs.node? l = some .directory := by simpa using h
    exact ⟨links, .nil hnode⟩
  | case3 links l name rest hl hhere ih =>
    obtain ⟨left, hleads⟩ := ih h
    obtain rfl : name = "." := by simpa using hhere
    exact ⟨left, .here (by simpa using hl) hleads⟩
  | case4 links l name rest hl _ hup ih =>
    obtain ⟨left, hleads⟩ := ih h
    obtain rfl : name = ".." := by simpa using hup
    exact ⟨left, .up (by simpa using hl) hleads⟩
  | case10 l name rest hl hhere hup hshort target hnode _ links ih =>
    obtain ⟨left, hleads⟩ := ih h
    exact ⟨left, .link (by simpa using hl) (.of_tests hhere hup hshort) hnode hleads⟩
  | case11 links l name rest hl hhere hup hshort node hlink hnode ih =>
    obtain ⟨left, hleads⟩ := ih h
    exact ⟨left, .name (by simpa using hl) (.of_tests hhere hup hshort) hleads⟩
  -- An error, a name that nothing stands under, or a link at the end.
  | case2 | case5 | case6 | case7 | case8 | case9 => simp at h

theorem lastName_eq_some_iff :
    names.getLast?.filter (fun name => name != "." && name != "..") = some name ↔
      (∃ before, names = before ++ [name]) ∧ name ≠ "." ∧ name ≠ ".." := by
  rw [Option.filter_eq_some_iff, List.getLast?_eq_some_iff]
  simp

theorem locateParent_eq_ok_iff :
    fs.locateParent p = .ok (l, some name) ↔
      checkPath p = .ok () ∧ NodeName name ∧
        ∃ before left, Path.names p = before ++ [name] ∧
          Leads fs maxLinks (fs.start p) before left l := by
  unfold locateParent
  simp only [Success.bind_eq_ok]
  constructor
  · rintro ⟨⟨⟩, hcheck, ⟨m, node⟩, hwalk, h⟩
    match node with
    | some .directory =>
      generalize hlast : (Path.names p).getLast?.filter (fun name => name != "." && name != "..") =
        last at h
      by_cases hshort : (last.getD "").utf8ByteSize ≤ 255
      · rw [if_pos hshort, Success.pure_eq_ok, Prod.mk.injEq] at h
        obtain ⟨rfl, rfl⟩ := h
        obtain ⟨⟨before, hnames⟩, hhere, hup⟩ := lastName_eq_some_iff.1 hlast
        rw [hnames, List.dropLast_concat] at hwalk
        obtain ⟨left, hleads⟩ := leads_of_walk hwalk
        exact ⟨hcheck, ⟨hhere, hup, hshort⟩, before, left, hnames, hleads⟩
      · rw [if_neg hshort] at h
        cases h
    | some (.file _) | some .closedFile | some (.link _) | none => cases h
  · rintro ⟨hcheck, hname, before, left, hnames, hleads⟩
    have hlast := lastName_eq_some_iff.2 ⟨⟨before, hnames⟩, hname.not_here, hname.not_up⟩
    refine ⟨(), hcheck, ⟨l, some .directory⟩, ?_, ?_⟩
    · rw [hnames, List.dropLast_concat, hleads.walk_eq]
    · rw [hlast]
      exact if_pos hname.short

/-- The location that a path asks for a file at. -/
def place? (fs : FileSystem) (p : String) : Option Location :=
  match fs.locateParent p with
  | .ok (l, some name) => if Path.endsInSlash p then none else some (l ++ [name])
  | _ => none

theorem place?_eq_some_iff :
    fs.place? p = some place ↔ Path.endsInSlash p = false ∧
      ∃ l name, fs.locateParent p = .ok (l, some name) ∧ l ++ [name] = place := by
  unfold place?
  split
  next l name h => by_cases hslash : Path.endsInSlash p <;> simp [hslash, h]
  next hnone =>
    constructor
    · intro h
      cases h
    · rintro ⟨-, l, name, h, -⟩
      exact absurd h (hnone l name)

/-- A file is created exactly at a free place of the path. -/
theorem createNew_eq_ok_iff :
    fs.createNew p = .ok (fs', place) ↔
      fs.place? p = some place ∧ fs.node? place = none ∧ fs' = fs.put place (.file []) := by
  unfold createNew
  rw [place?_eq_some_iff, Success.bind_eq_ok]
  constructor
  · rintro ⟨⟨l, last⟩, hparent, h⟩
    match last with
    | none => simp at h
    | some name =>
      by_cases hslash : Path.endsInSlash p
      · simp [hslash] at h
      by_cases htaken : (fs.node? (l ++ [name])).isSome
      · simp [hslash, htaken] at h
      simp only [if_neg hslash, if_neg htaken, Success.pure_eq_ok, Prod.mk.injEq] at h
      obtain ⟨rfl, rfl⟩ := h
      exact ⟨⟨by simpa using hslash, l, name, hparent, rfl⟩, by simpa using htaken, rfl⟩
  · rintro ⟨⟨hslash, l, name, hparent, rfl⟩, hfree, rfl⟩
    refine ⟨(l, some name), hparent, ?_⟩
    simp only [hslash, hfree, Option.isSome_none, Bool.false_eq_true, if_false]
    rfl

theorem walk_ne_occupied {follow : Bool} : fs.walk follow links l names ≠ .error .occupied := by
  fun_induction FileSystem.walk fs follow links l names with
  | case3 _ _ _ _ _ _ ih | case4 _ _ _ _ _ _ _ ih => exact ih
  | case10 _ _ _ _ _ _ _ _ _ _ _ ih => exact ih
  | case11 _ _ _ _ _ _ _ _ _ _ _ ih => exact ih
  | case1 | case2 | case5 | case6 | case7 | case8 | case9 => simp

theorem locateParent_ne_occupied : fs.locateParent p ≠ .error .occupied := by
  unfold locateParent
  simp only [ne_eq, Success.bind_eq_error, not_or, not_exists, not_and]
  refine ⟨?_, fun _ _ => ⟨walk_ne_occupied, fun place _ => ?_⟩⟩
  · unfold checkPath
    repeat' split
    all_goals simp
  · repeat' split
    all_goals simp [pure, Except.pure]

/-- Something stands where a path asks for a file. -/
def Taken (fs : FileSystem) (p : String) : Prop :=
  ∃ place node, fs.place? p = some place ∧ fs.node? place = some node

/-- To create a file fails for a taken name in a way that nothing else fails in. -/
theorem createNew_eq_occupied_iff : fs.createNew p = .error .occupied ↔ fs.Taken p := by
  unfold createNew Taken
  rw [Success.bind_eq_error, or_iff_right locateParent_ne_occupied]
  constructor
  · rintro ⟨⟨l, last⟩, hparent, h⟩
    match last with
    | none => simp at h
    | some name =>
      by_cases hslash : Path.endsInSlash p
      · simp [hslash] at h
      by_cases htaken : (fs.node? (l ++ [name])).isSome
      · obtain ⟨node, hnode⟩ := Option.isSome_iff_exists.1 htaken
        exact ⟨_, node, place?_eq_some_iff.2 ⟨by simpa using hslash, l, name, hparent, rfl⟩, hnode⟩
      · simp [hslash, htaken, pure, Except.pure] at h
  · rintro ⟨place, node, hplace, hnode⟩
    obtain ⟨hslash, l, name, hparent, rfl⟩ := place?_eq_some_iff.1 hplace
    exact ⟨(l, some name), hparent, by simp [hslash, hnode]⟩

theorem remove_of_place? {node : Node} (hplace : fs.place? p = some place)
    (hnode : fs.node? place = some node) (hdirectory : node ≠ .directory) :
    fs.remove p = .ok (fs.delete place) := by
  obtain ⟨hslash, l, name, hparent, rfl⟩ := place?_eq_some_iff.1 hplace
  unfold remove
  refine Success.bind_eq_ok.2 ⟨(l, some name), hparent, ?_⟩
  cases node with
  | directory => exact absurd rfl hdirectory
  | _ =>
    simp only [hnode, hslash]
    rfl

theorem cleared_of_place? {bytes : List UInt8} (hplace : fs.place? p = some place)
    (hfile : fs.node? place = some (.file bytes)) : fs.cleared p = fs.delete place := by
  unfold cleared
  rw [remove_of_place? hplace hfile (by simp)]

theorem read_of_place? {bytes : List UInt8} (hplace : fs.place? p = some place)
    (hfile : fs.node? place = some (.file bytes)) : fs.read p = .ok bytes := by
  obtain ⟨hslash, l, name, hparent, rfl⟩ := place?_eq_some_iff.1 hplace
  obtain ⟨hcheck, hname, before, left, hnames, hleads⟩ := locateParent_eq_ok_iff.1 hparent
  have hlocate : fs.locate p = .ok ⟨l ++ [name], some (.file bytes)⟩ := by
    unfold locate
    rw [hcheck, hslash, hnames]
    calc fs.walk true maxLinks (fs.start p) (before ++ [name] ++ [])
      _ = fs.walk true left l [name] := by rw [List.append_nil, hleads.walk_append]
      _ = .ok ⟨l ++ [name], some (.file bytes)⟩ :=
        walk_file hname hleads.directory_right hfile
  have hfind : fs.find p = .ok (l ++ [name], .file bytes) := by
    unfold find
    rw [hlocate]
    rfl
  exact read_of_find hfind

end ImagePrompt.FileSystem
