/-
File names — a written file is found again, also under its normal name.

A reader keeps the normal form of the name that it was given and goes back to the file by
it.  A name under which a file can be written leads through dots at most, so that its normal
form leads to the same file; what stands behind a null character never counts.
-/
import MeshlessGas.Archive.Directory
import MeshlessGas.Proofs.Writing

namespace MeshlessGas

/-! ## Cutting at slashes -/

namespace Path

theorem of_mem_cut {cs piece : List Char} {c : Char} (hp : piece ∈ cut cs) (hc : c ∈ piece) :
    c ≠ '/' ∧ c ∈ cs := by
  induction cs generalizing piece with
  | nil =>
    rw [cut, List.mem_singleton] at hp
    subst hp
    cases hc
  | cons d cs ih =>
    obtain ⟨first, rest, hcut⟩ := List.exists_cons_of_ne_nil (cut_ne_nil cs)
    by_cases hd : d = '/'
    · simp only [cut, hd, if_true, List.mem_cons] at hp
      rcases hp with rfl | hp
      · cases hc
      · exact (ih hp hc).imp_right (List.mem_cons_of_mem d)
    · simp only [cut, hd, if_false, hcut, List.mem_cons] at hp
      rcases hp with rfl | hp
      · rcases List.mem_cons.mp hc with rfl | hc
        · exact ⟨hd, List.mem_cons_self⟩
        · exact (ih (hcut ▸ List.mem_cons_self) hc).imp_right (List.mem_cons_of_mem d)
      · exact (ih (hcut ▸ List.mem_cons_of_mem first hp) hc).imp_right (List.mem_cons_of_mem d)

theorem cut_of_no_slash : ∀ {cs : List Char}, (∀ c ∈ cs, c ≠ '/') → cut cs = [cs]
  | [], _ => rfl
  | c :: cs, h => by
    have hrest : cut cs = [cs] := cut_of_no_slash fun d hd => h d (List.mem_cons_of_mem c hd)
    simp only [cut, h c List.mem_cons_self, if_false, hrest]

/-- Two texts meet in the last piece of the first and the first piece of the second. -/
theorem cut_append {b head : List Char} {tail : List (List Char)} (hb : cut b = head :: tail) :
    ∀ {a last : List Char} {before : List (List Char)}, cut a = before ++ [last] →
      cut (a ++ b) = before ++ (last ++ head) :: tail
  | [], last, before, ha => by
    have hlast : before = [] ∧ last = [] := by
      rw [cut] at ha
      cases before with
      | nil => simpa using ha.symm
      | cons piece before => simp at ha
    obtain ⟨rfl, rfl⟩ := hlast
    exact hb
  | c :: a, last, before, ha => by
    obtain ⟨first, rest, hcut⟩ := List.exists_cons_of_ne_nil (cut_ne_nil a)
    by_cases hc : c = '/'
    · simp only [cut, hc, if_true] at ha
      cases before with
      | nil =>
        simp only [List.nil_append, List.cons.injEq] at ha
        exact absurd ha.2 (cut_ne_nil a)
      | cons piece before =>
        simp only [List.cons_append, List.cons.injEq] at ha
        obtain ⟨rfl, ha⟩ := ha
        simp only [List.cons_append, cut, hc, if_true, cut_append hb ha]
    · simp only [cut, hc, if_false, hcut] at ha
      cases before with
      | nil =>
        simp only [List.nil_append, List.cons.injEq] at ha
        obtain ⟨rfl, rfl⟩ := ha
        have hone : cut a = [] ++ [first] := hcut
        have hab := cut_append hb hone
        simp only [List.cons_append, cut, hc, if_false, hab, List.nil_append]
      | cons piece before =>
        simp only [List.cons_append, List.cons.injEq] at ha
        obtain ⟨rfl, rfl⟩ := ha
        have hmany : cut a = (first :: before) ++ [last] := hcut
        have hab := cut_append hb hmany
        simp only [List.cons_append, cut, hc, if_false, hab]

/-- Whether a piece between slashes leads somewhere. -/
def Leads (cs : List Char) : Prop := cs ≠ [] ∧ cs ≠ ['.']

instance : DecidablePred Leads := fun cs => inferInstanceAs (Decidable (cs ≠ [] ∧ cs ≠ ['.']))

theorem components_eq (s : String) :
    components s = ((cut s.toList).filter fun cs => Leads cs).map String.ofList := rfl

theorem toList_beforeNull (s : String) :
    (beforeNull s).toList = s.toList.takeWhile (· ≠ '\x00') := String.toList_ofList

end Path

/-! ## Paths to a file -/

namespace Directory

/-- A path that leads to a file of the directory: nothing but dots stands before its name,
and nothing is asked for within it. -/
structure LeadsTo (path name : String) : Prop where
  not_absolute : Path.isAbsolute path = false
  not_tooLong : isTooLong path = false
  components : Path.components path = [name]
  not_within : asksWithin path = false

variable {D S : Type} {d : Directory D S} {file name : String}

theorem leadsTo_of_target (h : d.target file = .ok name) :
    LeadsTo (Path.beforeNull file) name := by
  simp only [target] at h
  split at h
  · cases h
  next first rest hcomponents =>
    split at h
    · cases h
    next hplain =>
      split at h
      next hname =>
        cases h
        obtain ⟨hrest, hwithin, -⟩ := hname
        have hnil : rest = [] := by simpa using hrest
        subst hnil
        exact ⟨by simpa using fun hf => hplain (.inl hf), by simpa using fun hf => hplain (.inr hf),
          hcomponents, by simpa using hwithin⟩
      · split at h
        · cases h
        · split at h <;> cases h

theorem locate_of_leadsTo (h : LeadsTo (Path.beforeNull file) name) :
    d.locate file = match d.files.find? name with
      | some f => .ok f
      | none => .error (strayFailure (Path.beforeNull file)) := by
  simp only [locate, h.components, h.not_absolute, h.not_tooLong, h.not_within]
  cases d.files.find? name <;> simp

theorem LeadsTo.cut_eq {path : String} (h : LeadsTo path name) :
    ∃ before last, Path.cut path.toList = before ++ [last] ∧ Path.Leads last ∧
      before.filter (fun cs => Path.Leads cs) = [] ∧ String.ofList last = name := by
  have hne := Path.cut_ne_nil path.toList
  have hsplit : Path.cut path.toList
      = (Path.cut path.toList).dropLast ++ [(Path.cut path.toList).getLast hne] :=
    (List.dropLast_concat_getLast hne).symm
  have hlast : Path.Leads ((Path.cut path.toList).getLast hne) := by
    have hwithin := h.not_within
    rw [asksWithin, List.getLast?_eq_some_getLast hne, Option.getD_some] at hwithin
    simpa [Path.Leads] using hwithin
  have hcomponents := h.components
  rw [Path.components_eq, hsplit, List.filter_append, List.map_append] at hcomponents
  simp only [List.filter_cons, hlast, decide_true, if_true, List.filter_nil, List.map_cons,
    List.map_nil] at hcomponents
  have hsame : [] ++ [name] = _ := hcomponents.symm
  have hparts := List.append_inj' hsame rfl
  exact ⟨_, _, hsplit, hlast, List.map_eq_nil_iff.mp hparts.1.symm,
    (List.cons.inj hparts.2).1.symm⟩

/-! ## The normal name -/

theorem toList_join_cons (a : String) (as : List String) :
    ∃ more, (Path.join (a :: as)).toList = a.toList ++ more ∧ (as = [] → more = []) := by
  cases as with
  | nil => exact ⟨[], (List.append_nil _).symm, fun _ => rfl⟩
  | cons b as =>
    refine ⟨("/" ++ Path.join (b :: as)).toList, ?_, nofun⟩
    rw [Path.join, String.intercalate_cons_cons, String.append_assoc, String.toList_append]
    rfl

/-- What stands behind the first null character: nothing, or a piece that begins with it. -/
theorem cut_dropWhile (cs : List Char) :
    ∃ head tail, Path.cut (cs.dropWhile (· ≠ '\x00')) = head :: tail ∧
      (head = [] ∧ tail = [] ∨ ∃ more, head = '\x00' :: more) := by
  cases hcs : cs.dropWhile (· ≠ '\x00') with
  | nil => exact ⟨[], [], rfl, .inl ⟨rfl, rfl⟩⟩
  | cons c rest =>
    have hc : c = '\x00' := by
      have hhead := List.head?_dropWhile_not (· ≠ '\x00') cs
      rw [hcs] at hhead
      simpa using hhead
    obtain ⟨first, tail, hcut⟩ := List.exists_cons_of_ne_nil (Path.cut_ne_nil rest)
    have hslash : ¬ '\x00' = '/' := by decide
    subst hc
    refine ⟨'\x00' :: first, tail, ?_, .inr ⟨first, rfl⟩⟩
    simp only [Path.cut, hslash, if_false, hcut]

theorem ne_null_of_mem_cut {cs piece : List Char}
    (h : piece ∈ Path.cut (cs.takeWhile (· ≠ '\x00'))) : ∀ c ∈ piece, c ≠ '\x00' := by
  intro c hc
  have hall := List.all_takeWhile (p := (· ≠ '\x00')) (l := cs)
  simpa using List.all_eq_true.mp hall c (Path.of_mem_cut h hc).2

theorem isAbsolute_of_beforeNull (h : Path.isAbsolute (Path.beforeNull file) = false) :
    Path.isAbsolute file = false := by
  rw [Path.isAbsolute, Path.toList_beforeNull] at h
  rw [Path.isAbsolute]
  cases hcs : file.toList with
  | nil => rfl
  | cons c cs =>
    rw [hcs] at h
    by_cases hc : c = '\x00'
    · subst hc
      rfl
    · simpa [List.takeWhile_cons, hc] using h

theorem toList_normalName (habsolute : Path.isAbsolute file = false) {first : List Char}
    {rest : List String} (hcomponents : Path.components file = String.ofList first :: rest)
    (hfirst : first ≠ []) :
    ∃ more, (normalName file).toList = first ++ more ∧ (rest = [] → more = []) := by
  obtain ⟨more, hjoin, hmore⟩ := toList_join_cons (String.ofList first) rest
  rw [String.toList_ofList] at hjoin
  refine ⟨more, ?_, hmore⟩
  simp only [normalName, habsolute, Bool.false_eq_true, if_false, String.empty_append,
    hcomponents]
  split
  next hempty =>
    have hnil := congrArg String.toList hempty
    rw [hjoin] at hnil
    exact absurd (List.append_eq_nil_iff.mp hnil).1 hfirst
  next => exact hjoin

theorem LeadsTo.beforeNull_normalName (h : LeadsTo (Path.beforeNull file) name) :
    Path.beforeNull (normalName file) = name := by
  obtain ⟨before, last, hcut, hlast, hbefore, hname⟩ := h.cut_eq
  rw [Path.toList_beforeNull] at hcut
  obtain ⟨head, tail, hrest, hends⟩ := cut_dropWhile file.toList
  have hnull : ∀ c ∈ last, c ≠ '\x00' :=
    ne_null_of_mem_cut (hcut ▸ List.mem_append_right before List.mem_cons_self)
  have hfull : Path.cut file.toList = before ++ (last ++ head) :: tail := by
    rw [← List.takeWhile_append_dropWhile (p := (· ≠ '\x00')) (l := file.toList)]
    exact Path.cut_append hrest hcut
  have hleads : Path.Leads (last ++ head) := by
    rcases hends with ⟨rfl, -⟩ | ⟨more, rfl⟩
    · simpa using hlast
    · refine ⟨by simp, fun hdot => ?_⟩
      cases last with
      | nil => exact hlast.1 rfl
      | cons c last => simp at hdot
  have hcomponents : Path.components file
      = String.ofList (last ++ head)
        :: (tail.filter fun cs => Path.Leads cs).map String.ofList := by
    rw [Path.components_eq, hfull, List.filter_append, hbefore, List.nil_append,
      List.filter_cons, if_pos (by simpa using hleads), List.map_cons]
  obtain ⟨more, hnormal, hmore⟩ :=
    toList_normalName (isAbsolute_of_beforeNull h.not_absolute) hcomponents hleads.1
  -- The null character, if there is one, stands right after the last component.
  have htake : (last ++ head ++ more).takeWhile (· ≠ '\x00') = last := by
    rw [List.append_assoc, List.takeWhile_append_of_pos (by simpa using hnull)]
    rcases hends with ⟨rfl, rfl⟩ | ⟨rest, rfl⟩
    · rw [hmore rfl]
      simp
    · simp
  rw [Path.beforeNull, hnormal, htake]
  exact hname

theorem LeadsTo.single {path : String} (h : LeadsTo path name) : LeadsTo name name := by
  obtain ⟨before, last, hcut, hlast, -, rfl⟩ := h.cut_eq
  have hslash : ∀ c ∈ last, c ≠ '/' := by
    intro c hc
    have hmem : last ∈ Path.cut path.toList := by simp [hcut]
    exact (Path.of_mem_cut hmem hc).1
  have hsingle : Path.cut (String.ofList last).toList = [last] := by
    rw [String.toList_ofList]
    exact Path.cut_of_no_slash hslash
  have hcomponents : Path.components (String.ofList last) = [String.ofList last] := by
    rw [Path.components_eq, hsingle]
    simp [hlast]
  have hlength : (String.ofList last).utf8ByteSize ≤ maxNameBytes := by
    have hlong := h.not_tooLong
    simp only [isTooLong, h.components] at hlong
    have hboth : path.utf8ByteSize ≤ maxPathBytes ∧
        (String.ofList last).utf8ByteSize ≤ maxNameBytes := by simpa using hlong
    exact hboth.2
  refine ⟨?_, ?_, hcomponents, ?_⟩
  · rw [Path.isAbsolute, String.toList_ofList]
    cases last with
    | nil => rfl
    | cons c last => simpa using hslash c List.mem_cons_self
  · have hpath : (String.ofList last).utf8ByteSize ≤ maxPathBytes :=
      Nat.le_trans hlength (by decide)
    simp [isTooLong, hcomponents, hlength, hpath]
  · rw [asksWithin, hsingle]
    exact decide_eq_false fun h => h.elim hlast.1 hlast.2

/-! ## Reading what was written -/

/-- A name under which a file can be written: it leads to a file on which no handle is open. -/
def Writable (d : Directory D S) (file : String) : Prop :=
  ∃ name, d.target file = .ok name ∧ ∀ h ∈ d.handles, h.file ≠ name

variable {α : Type} {start f : Archive D S} {action : Writing D S α} {a : α}

/-- What a successful action leaves is read from the file, by its name and by the normal
form of its name. -/
theorem read_write {d' : Directory D S} (h : d.write file start action = (.ok a, d')) :
    ∃ f, Writing.Runs action start a f ∧ d'.read file = .ok f ∧
      d'.read (normalName file) = .ok f := by
  unfold write at h
  split at h
  · cases h
  next name htarget =>
    split at h
    · cases h
    · obtain ⟨hrun, rfl⟩ := Prod.mk.inj h
      have hpath := leadsTo_of_target htarget
      have hnormal : LeadsTo (Path.beforeNull (normalName file)) name := by
        rw [hpath.beforeNull_normalName]
        exact hpath.single
      refine ⟨(action.run.run start).2, Prod.ext hrun rfl, ?_, ?_⟩
      · simp only [read, locate_of_leadsTo hpath, Table.find?_insert_self]
        rfl
      · simp only [read, locate_of_leadsTo hnormal, Table.find?_insert_self]
        rfl

theorem write_of_runs (hw : d.Writable file) (hr : Writing.Runs action start a f) :
    ∃ d', d.write file start action = (.ok a, d') := by
  obtain ⟨name, htarget, hhandles⟩ := hw
  have hclosed : (d.handles.any fun h => h.file = name) = false := by
    simpa using hhandles
  have hrun : action.run.run start = (.ok a, f) := hr
  exact ⟨{ d with files := d.files.insert name (.archive f) }, by
    simp only [write, htarget, hclosed, hrun, Bool.false_eq_true, if_false]⟩

theorem Writable.write {other : String} (hw : d.Writable other) :
    (d.write file start action).2.Writable other := by
  obtain ⟨name, htarget, hhandles⟩ := hw
  have hfiles : ∀ files : Table (StoredFile D S),
      ({ d with files } : Directory D S).target other = .ok name := by
    intro files
    have hpath := leadsTo_of_target htarget
    simp only [target, hpath.components, hpath.not_absolute, hpath.not_tooLong,
      hpath.not_within] at htarget ⊢
    by_cases hup : name = ".."
    · subst hup
      simp only [Bool.false_eq_true, or_self, if_false, ne_eq, not_true_eq_false, and_false,
        List.isEmpty_nil, true_and] at htarget
      split at htarget
      · cases htarget
      · split at htarget <;> cases htarget
    · simp [hup]
  unfold Directory.write
  split
  · exact ⟨name, htarget, hhandles⟩
  · split
    · exact ⟨name, htarget, hhandles⟩
    · exact ⟨name, hfiles _, hhandles⟩

end Directory

end MeshlessGas
