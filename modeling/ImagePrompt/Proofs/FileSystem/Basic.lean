import ImagePrompt.FileSystem.Basic
/-!
# Reading from a file system

What stands at a location after a node is put, and what a plain name in the
working directory leads to.
-/

namespace ImagePrompt.FileSystem

variable {fs : FileSystem} {l m : Location} {node : Node} {name : String} {bytes : List UInt8}

theorem node?_put : (fs.put l node).node? m = if l = m then some node else fs.node? m := by
  unfold node? put
  rw [Std.HashMap.getElem?_insert]
  simp only [beq_iff_eq]

/-- A node put where nothing stood leaves the others. -/
theorem node?_put_of_free {new : Node} (hfree : fs.node? l = none) (hm : fs.node? m = some node) :
    (fs.put l new).node? m = some node := by
  have hne : l ≠ m := by
    rintro rfl
    rw [hfree] at hm
    cases hm
  rw [node?_put, if_neg hne, hm]

@[simp] theorem workingDirectory_put : (fs.put l node).workingDirectory = fs.workingDirectory := rfl

@[simp] theorem workingDirectory_empty : empty.workingDirectory = ["work"] := rfl

theorem node?_delete : (fs.delete l).node? m = if l = m then none else fs.node? m := by
  unfold node? delete
  rw [Std.HashMap.getElem?_erase]
  simp only [beq_iff_eq]

@[simp] theorem workingDirectory_delete :
    (fs.delete l).workingDirectory = fs.workingDirectory := rfl

theorem node?_empty : empty.node? m =
    if ["work"] = m then some .directory else if [] = m then some .directory else none := by
  unfold node? empty
  rw [Std.HashMap.getElem?_insert, Std.HashMap.getElem?_insert, Std.HashMap.getElem?_empty]
  simp only [beq_iff_eq]

/-- A name that a node can have. -/
structure NodeName (name : String) : Prop where
  not_here : name ≠ "."
  not_up : name ≠ ".."
  short : name.utf8ByteSize ≤ 255

theorem NodeName.of_tests (hhere : ¬ (name == ".") = true) (hup : ¬ (name == "..") = true)
    (hshort : ¬ 255 < name.utf8ByteSize) : NodeName name :=
  ⟨by simpa using hhere, by simpa using hup, Nat.not_lt.1 hshort⟩

/-- A text that is one name of a file, and no dot. -/
structure PlainName (name : String) : Prop where
  names : Path.names name = [name]
  checked : checkPath name = .ok ()
  relative : Path.isAbsolute name = false
  unslashed : Path.endsInSlash name = false
  not_here : name ≠ "."
  not_up : name ≠ ".."
  short : name.utf8ByteSize ≤ 255

theorem PlainName.nodeName (h : PlainName name) : NodeName name := ⟨h.not_here, h.not_up, h.short⟩

theorem walk_name {follow : Bool} {links : Nat} {rest : List String}
    (hdirectory : fs.node? l = some .directory) (hname : NodeName name)
    (hnode : fs.node? (l ++ [name]) = some node) (hlink : ∀ target, node ≠ .link target) :
    fs.walk follow links l (name :: rest) = fs.walk follow links (l ++ [name]) rest := by
  have hshort : ¬ 255 < name.utf8ByteSize := Nat.not_lt.2 hname.short
  rw [walk]
  cases node with
  | link target => exact absurd rfl (hlink target)
  | _ => simp [hdirectory, hname.not_here, hname.not_up, hshort, hnode]

theorem walk_file {follow : Bool} {links : Nat} (hname : NodeName name)
    (hdirectory : fs.node? l = some .directory)
    (hfile : fs.node? (l ++ [name]) = some (.file bytes)) :
    fs.walk follow links l [name] = .ok ⟨l ++ [name], some (.file bytes)⟩ := by
  rw [walk_name hdirectory hname hfile (by simp), walk, hfile]

theorem find_file (hname : PlainName name)
    (hdirectory : fs.node? fs.workingDirectory = some .directory)
    (hfile : fs.node? (fs.workingDirectory ++ [name]) = some (.file bytes)) :
    fs.find name = .ok (fs.workingDirectory ++ [name], .file bytes) := by
  have hstart : fs.start name = fs.workingDirectory := by simp [start, hname.relative]
  have hlocate : fs.locate name = .ok ⟨fs.workingDirectory ++ [name], some (.file bytes)⟩ := by
    unfold locate
    rw [hname.checked, hname.names, hname.unslashed, hstart]
    exact walk_file hname.nodeName hdirectory hfile
  unfold find
  rw [hlocate]
  rfl

theorem read_of_find (hfind : fs.find name = .ok (l, .file bytes)) : fs.read name = .ok bytes := by
  unfold read
  rw [hfind]
  rfl

theorem canonical?_of_find (hfind : fs.find name = .ok (l, node)) :
    fs.canonical? name = some l := by
  unfold canonical?
  rw [hfind]

end ImagePrompt.FileSystem
