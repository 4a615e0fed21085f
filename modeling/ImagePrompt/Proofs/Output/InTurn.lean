import ImagePrompt.Proofs.Output.FirstFree
import ImagePrompt.Proofs.Output.Naming
/-!
# Pictures written in turn

A writer alone takes the first free name and gives up behind the last one.
Pictures of one time that are written one after another, in a directory that
was empty, are numbered in the order of their writing.
-/

namespace ImagePrompt.OutputWriter

open OutputName (limit)

/-- Writes pictures of one time and extension one after another. -/
def writeInTurn (name : OutputName) :
    List Bytes → FileSystem → FileSystem × List (Except Failure String)
  | [], fs => (fs, [])
  | bytes :: rest, fs =>
    let first := write name bytes none fs
    let others := writeInTurn name rest first.1
    (others.1, first.2 :: others.2)

/-- What a call returns when as many names are taken, and those are the first. -/
def nthResult (name : OutputName) (count : Nat) : Except Failure String :=
  if count < limit then .ok (name.path count) else .error (exhausted { name, bytes := [] })

/-- Of so many pictures in all, those that have been written stand under the first names, and
nothing stands under the others. -/
structure Numbered (start : FileSystem) (name : OutputName) (top : Location) (total : Nat)
    (written : List Bytes) (fs : FileSystem) : Prop where
  free : ∀ attempt < limit, start.node? (top ++ [name.file attempt]) = none
  opens : fs.Opens name.directory top
  place : ∀ attempt < limit, attempt < total →
    fs.place? (name.path attempt) = some (top ++ [name.file attempt])
  entry : ∀ attempt < limit,
    fs.node? (top ++ [name.file attempt]) = written[attempt]?.map Node.file
  other : ∀ l, (∀ attempt < limit, l ≠ top ++ [name.file attempt]) →
    fs.node? l = start.node? l ∨ start.node? l = none ∧ fs.node? l = some .directory

namespace Numbered

variable {start fs made : FileSystem} {name : OutputName} {top : Location} {written : List Bytes}
  {bytes : Bytes} {attempt total : Nat}

theorem taken_iff (h : Numbered start name top total written fs) (hattempt : attempt < limit)
    (htotal : attempt < total) : fs.Taken (name.path attempt) ↔ attempt < written.length := by
  have hplace := h.place attempt hattempt htotal
  have hentry := h.entry attempt hattempt
  constructor
  · rintro ⟨place, node, hplace', hnode⟩
    obtain rfl := Option.some.inj (hplace'.symm.trans hplace)
    by_contra hle
    rw [hentry, List.getElem?_eq_none (Nat.not_lt.1 hle)] at hnode
    cases hnode
  · intro hlt
    rw [List.getElem?_eq_getElem hlt] at hentry
    exact ⟨_, _, hplace, hentry⟩

theorem firstFree (h : Numbered start name top total written fs) (hlimit : written.length < limit)
    (htotal : written.length < total) : name.FirstFree fs written.length where
  tried := hlimit
  free := fun htaken => Nat.lt_irrefl _ ((h.taken_iff hlimit htotal).1 htaken)
  taken := fun _ hearlier =>
    (h.taken_iff (Nat.lt_trans hearlier hlimit) (Nat.lt_trans hearlier htotal)).2 hearlier

/-- A picture under the next name. -/
theorem put (h : Numbered start name top total written fs) (hlimit : written.length < limit)
    {fs' : FileSystem} (hgains : fs.GainsFile fs' (top ++ [name.file written.length]) bytes)
    (hother : ∀ l, top ++ [name.file written.length] ≠ l → fs'.node? l = fs.node? l) :
    Numbered start name top total (written ++ [bytes]) fs' where
  free := h.free
  opens := h.opens.of_keepsWays hgains.keepsWays
  place attempt hattempt htotal :=
    FileSystem.place?_of_keepsWays hgains.keepsWays (h.place attempt hattempt htotal)
  entry attempt hattempt := by
    by_cases heq : attempt = written.length
    · subst heq
      rw [hgains.file, List.getElem?_concat_length]
      rfl
    · have hne : top ++ [name.file written.length] ≠ top ++ [name.file attempt] := by
        intro hsame
        have hfile : name.file written.length = name.file attempt := by simpa using hsame
        exact heq (OutputName.file_injective hfile).symm
      have hentry : (written ++ [bytes])[attempt]? = written[attempt]? := by
        rcases Nat.lt_or_gt_of_ne heq with hlt | hgt
        · exact List.getElem?_append_left hlt
        · rw [List.getElem?_eq_none (by simp; omega), List.getElem?_eq_none (by omega)]
      rw [hother _ hne, hentry, h.entry attempt hattempt]
  other l hl := by
    rw [hother l (hl _ hlimit).symm]
    exact h.other l hl

/-- One call takes the next name, or fails when there is none. -/
theorem write (h : Numbered start name top total written fs) (htotal : written.length < total)
    (bytes : Bytes) :
    (write name bytes none fs).2 = nthResult name written.length ∧
      Numbered start name top total (written ++ [bytes]) (write name bytes none fs).1 := by
  have hmade := h.opens.makeDirectories
  unfold nthResult
  by_cases hlimit : written.length < limit
  · have hplace := h.place _ hlimit htotal
    have hfirst := h.firstFree hlimit htotal
    have hfree := hfirst.node? hplace
    rw [write_firstFree hmade hfirst hplace, if_pos hlimit]
    refine ⟨rfl, h.put hlimit (.put (.of_put (.refl fs) hfree)) fun l hl => ?_⟩
    rw [FileSystem.node?_put, if_neg hl, FileSystem.node?_put, if_neg hl]
  · have hall : ∀ attempt < limit, attempt < written.length := fun attempt hattempt => by omega
    have htaken : ∀ attempt < limit, fs.Taken (name.path attempt) := fun attempt hattempt =>
      (h.taken_iff hattempt (by omega)).2 (hall attempt hattempt)
    rw [write_exhausted hmade htaken, if_neg hlimit]
    refine ⟨rfl, h.free, h.opens, h.place, fun attempt hattempt => ?_, h.other⟩
    rw [List.getElem?_append_left (hall attempt hattempt)]
    exact h.entry attempt hattempt

/-- Calls in turn return the names in turn. -/
theorem writeInTurn (h : Numbered start name top total written fs) (pictures : List Bytes)
    (htotal : written.length + pictures.length ≤ total) :
    (writeInTurn name pictures fs).2 =
        (List.range' written.length pictures.length).map (nthResult name) ∧
      Numbered start name top total (written ++ pictures) (writeInTurn name pictures fs).1 := by
  induction pictures generalizing written fs with
  | nil => exact ⟨rfl, (List.append_nil written).symm ▸ h⟩
  | cons bytes rest ih =>
    rw [List.length_cons] at htotal
    have hlength : (written ++ [bytes]).length = written.length + 1 := by simp
    obtain ⟨hresult, hnext⟩ := h.write (by omega) bytes
    obtain ⟨hresults, hfinal⟩ := ih hnext (by omega)
    rw [List.append_assoc] at hfinal
    refine ⟨?_, hfinal⟩
    simp only [OutputWriter.writeInTurn, hresult, hresults, hlength, List.length_cons,
      List.range'_succ, List.map_cons]

/-- In an empty directory every name is free and asks for an entry of that directory. -/
theorem of_empty (hmade : start.makeDirectories name.directory = (made, .ok ()))
    (hopens : made.Opens name.directory top) (hnone : ∀ entry, made.node? (top ++ [entry]) = none)
    (hplaces : ∀ attempt < limit, attempt < total →
      ∃ place, made.place? (name.path attempt) = some place) :
    Numbered start name top total [] made := by
  have hgains := FileSystem.GainsDirectories.of_makeDirectories hmade
  refine ⟨fun attempt _ => ?_, hopens, fun attempt hattempt htotal => ?_, fun attempt _ => ?_,
    fun l _ => hgains.node l⟩
  · rcases hgains.node (top ++ [name.file attempt]) with heq | ⟨hfree, -⟩
    · rw [← heq, hnone]
    · exact hfree
  · obtain ⟨place, hplace⟩ := hplaces attempt hattempt htotal
    obtain ⟨cs, hchars⟩ := name.toList_file attempt
    have hentry := hopens.eq_entry_of_empty hnone hchars (by decide) (by decide) hplace
    rw [hplace, hentry]
  · rw [hnone]
    rfl

end Numbered

/-- Pictures have been written in turn: each of the first has the name of its number and can be
read there, each call behind the last name has failed, and no other file has changed. -/
structure WrittenInTurn (start : FileSystem) (name : OutputName) (top : Location)
    (pictures : List Bytes) (after : FileSystem) (results : List (Except Failure String)) :
    Prop where
  results : results = (List.range pictures.length).map (nthResult name)
  read : ∀ count bytes, count < limit → pictures[count]? = some bytes →
    after.read (name.path count) = .ok bytes
  changed : ∀ l, after.node? l = start.node? l ∨ start.node? l = none ∧
    (after.node? l = some .directory ∨
      ∃ count bytes, count < limit ∧ pictures[count]? = some bytes ∧
        l = top ++ [name.file count] ∧ after.node? l = some (.file bytes))

theorem Numbered.changed {start fs : FileSystem} {name : OutputName} {top : Location}
    {total : Nat} {pictures : List Bytes} (h : Numbered start name top total pictures fs)
    (l : Location) :
    fs.node? l = start.node? l ∨ start.node? l = none ∧
      (fs.node? l = some .directory ∨
        ∃ count bytes, count < limit ∧ pictures[count]? = some bytes ∧
          l = top ++ [name.file count] ∧ fs.node? l = some (.file bytes)) := by
  by_cases hname : ∃ attempt < limit, l = top ++ [name.file attempt]
  · obtain ⟨attempt, hattempt, rfl⟩ := hname
    have hentry := h.entry attempt hattempt
    have hfree := h.free attempt hattempt
    cases hpicture : pictures[attempt]? with
    | none =>
      rw [hpicture] at hentry
      exact .inl (hentry.trans hfree.symm)
    | some bytes =>
      rw [hpicture] at hentry
      exact .inr ⟨hfree, .inr ⟨attempt, bytes, hattempt, hpicture, rfl, hentry⟩⟩
  · rcases h.other l fun attempt hattempt heq => hname ⟨attempt, hattempt, heq⟩ with heq | hmade
    · exact .inl heq
    · exact .inr ⟨hmade.1, .inl hmade.2⟩

/-- Calls in turn begin with the directory being made, if there are any. -/
theorem writeInTurn_writtenInTurn {start made : FileSystem} {name : OutputName} {top : Location}
    {pictures : List Bytes} (hmade : start.makeDirectories name.directory = (made, .ok ()))
    (h : Numbered start name top pictures.length [] made) :
    WrittenInTurn start name top pictures (writeInTurn name pictures start).1
      (writeInTurn name pictures start).2 := by
  cases pictures with
  | nil => exact ⟨rfl, by simp, fun l => .inl rfl⟩
  | cons bytes rest =>
    have hsame : writeInTurn name (bytes :: rest) start =
        writeInTurn name (bytes :: rest) made := by
      have hfirst : write name bytes none start = write name bytes none made := by
        rw [write_made hmade, write_made h.opens.makeDirectories]
      simp only [writeInTurn, hfirst]
    obtain ⟨hresults, hfinal⟩ := h.writeInTurn (bytes :: rest) (by simp)
    rw [hsame, hresults]
    refine ⟨by rw [List.range_eq_range']; rfl, fun count content hcount hpicture => ?_, hfinal.changed⟩
    have hentry := hfinal.entry count hcount
    rw [List.nil_append, hpicture] at hentry
    have hlength : count < (bytes :: rest).length := (List.getElem?_eq_some_iff.1 hpicture).1
    exact FileSystem.read_of_place? (hfinal.place count hcount hlength) hentry

/-- The working directory of the empty file system takes any pictures. -/
example (pictures : List Bytes) :
    let name : OutputName := ⟨"", ⟨2025, 3, 9, 14, 5, 7⟩, "png"⟩
    WrittenInTurn .empty name ["work"] pictures (writeInTurn name pictures .empty).1
      (writeInTurn name pictures .empty).2 := by
  have hfits : OutputName.Fits ⟨"", ⟨2025, 3, 9, 14, 5, 7⟩, "png"⟩ := by constructor <;> decide
  have hwork : FileSystem.empty.node? ["work"] = some .directory := by simp [FileSystem.node?_empty]
  have hopens : FileSystem.empty.Opens "" ["work"] := ⟨.inl rfl, FileSystem.maxLinks, .nil hwork⟩
  have hnone : ∀ entry, FileSystem.empty.node? (["work"] ++ [entry]) = none := by
    simp [FileSystem.node?_empty]
  refine writeInTurn_writtenInTurn hopens.makeDirectories (.of_empty hopens.makeDirectories hopens
    hnone fun attempt hattempt _ => ⟨_, hfits.place? hopens hattempt⟩)

/-! ## What a writer can be relied on for -/

/-- A writer that nobody disturbs takes the first name that nothing stands under, gives up when
there is none, and leaves no file behind when it fails. -/
structure TakesFirstFree (name : OutputName) (bytes : Bytes) (fs : FileSystem) : Prop where
  first : ∀ made attempt place, fs.makeDirectories name.directory = (made, .ok ()) →
    name.FirstFree made attempt → made.place? (name.path attempt) = some place →
    ∃ after, write name bytes none fs = (after, .ok (name.path attempt)) ∧
      after.place? (name.path attempt) = some place ∧ fs.GainsFile after place bytes
  returned : ∀ fault after path, write name bytes fault fs = (after, .ok path) →
    ∃ made attempt, fs.makeDirectories name.directory = (made, .ok ()) ∧
      name.FirstFree made attempt ∧ path = name.path attempt
  allTaken : ∀ made fault, fs.makeDirectories name.directory = (made, .ok ()) →
    (∀ attempt < limit, made.Taken (name.path attempt)) →
    write name bytes fault fs = (made, .error (exhausted { name, bytes }))
  givesUp : ∀ made, fs.makeDirectories name.directory = (made, .ok ()) →
    (write name bytes none fs).2 = .error (exhausted { name, bytes }) →
    ∀ attempt < limit, made.Taken (name.path attempt)
  unmade : ∀ made e fault, fs.makeDirectories name.directory = (made, .error e) →
    write name bytes fault fs = (made, .error (.write name.directory e.message))
  refused : ∀ made attempt fault, fs.makeDirectories name.directory = (made, .ok ()) →
    name.FirstFree made attempt → made.place? (name.path attempt) = none →
    ∃ e : FileError,
      write name bytes fault fs = (made, .error (.write (name.path attempt) e.message))
  faulty : ∀ made attempt place fault, fs.makeDirectories name.directory = (made, .ok ()) →
    name.FirstFree made attempt → made.place? (name.path attempt) = some place →
    (write name bytes (some fault) fs).2 = .error (.write (name.path attempt) fault.reason)
  reaches : ∀ fault, Reaches fs name bytes (write name bytes fault fs).1
    (.finished (write name bytes fault fs).2)
  atomic : ∀ after f, Reaches fs name bytes after (.finished (.error f)) →
    f.kind = .write ∧ fs.GainsDirectories after
  opens : ∀ made, name.directory ≠ "" → fs.makeDirectories name.directory = (made, .ok ()) →
    ∃ top, made.Opens name.directory top
  entries : ∀ top, name.Fits → fs.Opens name.directory top → ∀ attempt < limit,
    fs.place? (name.path attempt) = some (top ++ [name.file attempt]) ∧
      (fs.Taken (name.path attempt) ↔ ∃ node, fs.node? (top ++ [name.file attempt]) = some node)
  distinct : ∀ a b, name.path a = name.path b → a = b
  inTurn : ∀ made top pictures, fs.makeDirectories name.directory = (made, .ok ()) →
    made.Opens name.directory top → (∀ entry, made.node? (top ++ [entry]) = none) →
    (∀ attempt < limit, attempt < pictures.length →
      ∃ place, made.place? (name.path attempt) = some place) →
    WrittenInTurn fs name top pictures (writeInTurn name pictures fs).1
      (writeInTurn name pictures fs).2

/-- Every writer that nobody disturbs takes the first free name. -/
theorem write_takesFirstFree (name : OutputName) (bytes : Bytes) (fs : FileSystem) :
    TakesFirstFree name bytes fs := by
  constructor
  case first =>
    intro made attempt place hmade hfirst hplace
    have hfree := hfirst.node? hplace
    have hfilled : made.GainsFile ((made.put place (.file [])).put place (.file bytes)) place bytes :=
      .put (.of_put (.refl made) hfree)
    refine ⟨_, write_firstFree hmade hfirst hplace, ?_, ?_⟩
    · exact FileSystem.place?_of_keepsWays hfilled.keepsWays hplace
    · exact .put (.of_put (.of_makeDirectories hmade) hfree)
  case returned => exact fun _ _ _ h => firstFree_of_write h
  case allTaken => exact fun _ _ hmade htaken => write_exhausted hmade htaken
  case givesUp => exact fun _ hmade h => taken_of_exhausted hmade h
  case unmade => exact fun _ _ _ hmade => write_unmade hmade
  case refused => exact fun _ _ _ hmade hfirst hnone => write_refused hmade hfirst hnone
  case faulty => exact fun _ _ _ _ hmade hfirst hplace => write_faulty hmade hfirst hplace
  case reaches => exact fun _ => reaches_write
  case atomic => exact fun _ _ hreached => hreached.of_error
  case opens => exact fun _ => FileSystem.Opens.of_makeDirectories
  case entries =>
    intro top hfits hopens attempt hattempt
    have hplace := hfits.place? hopens hattempt
    refine ⟨hplace, ?_⟩
    constructor
    · rintro ⟨place, node, hplace', hnode⟩
      obtain rfl := Option.some.inj (hplace'.symm.trans hplace)
      exact ⟨node, hnode⟩
    · rintro ⟨node, hnode⟩
      exact ⟨_, node, hplace, hnode⟩
  case distinct => exact fun _ _ => OutputName.path_injective
  case inTurn =>
    intro made top pictures hmade hopens hnone hplaces
    exact writeInTurn_writtenInTurn hmade (.of_empty hmade hopens hnone hplaces)

end ImagePrompt.OutputWriter
