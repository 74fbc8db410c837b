import HostInventory.FileTree.Operations
import HostInventory.Proofs.Path.LastSegment

/-!
# The place that a path names

The operations that create, move and remove an entry all work on the place that a path names: the
directory in front of its last name, and that name in it. `named?` is that place, whether or not
anything is there. The last name is the last segment of the path, as it is written
(`lastSegment_of_named?`).
-/

namespace HostInventory.FileTree

/-! ## The last name -/

theorem cutLast_eq_name_iff {path : String} {front : List String} {name : String} :
    cutLast path = (front, .name name false) ↔
      names path = front ++ [name] ∧ name ≠ "" ∧ name ≠ "." ∧ name ≠ ".." := by
  unfold cutLast
  constructor
  · intro h
    dsimp only at h
    split at h
    · cases h
    · rename_i last rest hd
      split at h
      · cases h
      · rename_i hdots
        obtain ⟨rfl, hname⟩ := Prod.mk.inj h
        obtain ⟨rfl, hlen⟩ := LastName.name.inj hname
        have hall : (names path).reverse.dropWhile (· == "") = (names path).reverse := by
          refine (List.dropWhile_suffix _).eq_of_length ?_
          simpa using hlen
        have hlast : last ≠ "" := fun he => by
          have := List.head?_dropWhile_not (· == "") (names path).reverse
          rw [hd] at this
          simp [he] at this
        rw [hd] at hall
        refine ⟨?_, hlast, fun he => hdots (.inl he), fun he => hdots (.inr he)⟩
        have := congrArg List.reverse hall
        rw [List.reverse_reverse] at this
        rw [← this, List.reverse_cons]
  · rintro ⟨hnames, hne, hdot, hup⟩
    have hrev : (names path).reverse = name :: front.reverse := by rw [hnames]; simp
    have hdrop : (names path).reverse.dropWhile (· == "") = name :: front.reverse := by
      rw [hrev, List.dropWhile_cons_of_neg]
      simpa using hne
    simp only [hdrop]
    rw [if_neg (by simp [hdot, hup])]
    simp [hnames]

/-- The name at the end of a path that names a place is its last segment. -/
theorem lastSegment_of_cutLast {path : String} {front : List String} {name : String}
    (h : cutLast path = (front, .name name false)) :
    Path.lastSegment path.toList = name.toList := by
  obtain ⟨hnames, -⟩ := cutLast_eq_name_iff.mp h
  obtain ⟨front', hseg⟩ := Path.segments_eq_append path.toList
  rw [names, hseg, List.map_append] at hnames
  have := (List.append_inj' hnames rfl).2
  rw [← List.singleton_inj.mp this, String.toList_ofList]

/-! ## Named places -/

/-- The place of the entry that a path names, the last link not followed, whether or not there is
an entry. -/
def named? (t : FileTree) (path : String) : Option Place :=
  match t.locateParent path with
  | .ok (directory, .name name false) => some (directory ++ [name])
  | _ => none

theorem named?_of_locateParent {t : FileTree} {path : String} {directory : Place}
    {name : String} (h : t.locateParent path = .ok (directory, .name name false)) :
    t.named? path = some (directory ++ [name]) := by
  rw [named?, h]

theorem named?_eq_some {t : FileTree} {path : String} {place : Place}
    (h : t.named? path = some place) :
    ∃ directory name, t.locateParent path = .ok (directory, .name name false) ∧
      place = directory ++ [name] := by
  unfold named? at h
  split at h
  · rename_i directory name hp
    exact ⟨directory, name, hp, (Option.some.inj h).symm⟩
  · cases h

theorem ok_of_bind {ε α β : Type} {x : Except ε α} {k : α → Except ε β} {b : β}
    (h : (x >>= k) = .ok b) : ∃ a, x = .ok a ∧ k a = .ok b := by
  cases x with
  | error e => cases h
  | ok a => exact ⟨a, rfl, h⟩

theorem error_of_bind {ε α β : Type} {x : Except ε α} {k : α → Except ε β} {e : ε}
    (h : (x >>= k) = .error e) : x = .error e ∨ ∃ a, x = .ok a ∧ k a = .error e := by
  cases x with
  | error e' =>
      cases h
      exact .inl rfl
  | ok a => exact .inr ⟨a, rfl, h⟩

/-- What holds when the directory in front of the last name is found. -/
theorem locateParent_eq_ok {t : FileTree} {path : String} {directory : Place}
    {last : LastName} (h : t.locateParent path = .ok (directory, last)) :
    checkPath path = .ok () ∧ last = (cutLast path).2 ∧
      t.follow maxLinks (t.startOf path) (cutLast path).1 = .ok (.taken directory) ∧
      (∃ mode, t.get? directory = some (.directory mode)) ∧ t.canSearch directory = true := by
  unfold locateParent at h
  obtain ⟨_, hc, h⟩ := ok_of_bind h
  obtain ⟨s, hf, h⟩ := ok_of_bind h
  cases s with
  | vacant place name => cases h
  | taken place =>
      dsimp only at h
      split at h
      · rename_i mode hmode
        split at h
        · rename_i hs
          obtain ⟨rfl, rfl⟩ := Prod.mk.inj (Except.ok.inj h)
          exact ⟨hc, rfl, hf, ⟨mode, hmode⟩, hs⟩
        · cases h
      · cases h

theorem names_of_locateParent {t : FileTree} {path : String} {directory : Place} {name : String}
    (h : t.locateParent path = .ok (directory, .name name false)) :
    names path = (cutLast path).1 ++ [name] ∧ name ≠ "" ∧ name ≠ "." ∧ name ≠ ".." :=
  cutLast_eq_name_iff.mp (Prod.ext rfl (locateParent_eq_ok h).2.1.symm)

theorem locateParent_of_follow {t : FileTree} {path : String} {directory : Place} {mode : Nat}
    (hc : checkPath path = .ok ())
    (hf : t.follow maxLinks (t.startOf path) (cutLast path).1 = .ok (.taken directory))
    (hm : t.get? directory = some (.directory mode)) (hs : t.canSearch directory = true) :
    t.locateParent path = .ok (directory, (cutLast path).2) := by
  unfold locateParent
  simp only [hc, hf, hm, hs, bind, Except.bind, if_true]
  rfl

/-- Dots lead nowhere else. -/
theorem follow_here {t : FileTree} {place : Place} (hs : t.canSearch place = true) (links : Nat)
    {rest : List String} (h : ∀ name ∈ rest, name = ".") :
    t.follow links place rest = .ok (.taken place) := by
  induction rest with
  | nil => rw [follow]
  | cons name rest ih =>
      obtain rfl := h name List.mem_cons_self
      have hrest := ih fun name' hname => h name' (List.mem_cons_of_mem _ hname)
      rw [follow]
      simpa [hs] using hrest

theorem locateParent_here {t : FileTree} {path name : String} {mode : Nat}
    (hdir : t.get? t.cwd = some (.directory mode)) (hs : t.canSearch t.cwd = true)
    (hcheck : checkPath path = .ok ()) (hstart : Path.isAbsolute path.toList = false)
    (hfront : ∀ segment ∈ (cutLast path).1, segment = ".")
    (hlast : (cutLast path).2 = .name name false) :
    t.locateParent path = .ok (t.cwd, .name name false) := by
  have hfollow : t.follow maxLinks (t.startOf path) (cutLast path).1 = .ok (.taken t.cwd) := by
    rw [startOf, hstart]
    exact follow_here hs maxLinks hfront
  rw [← hlast]
  exact locateParent_of_follow hcheck hfollow hdir hs

/-- The last name of a named place. -/
theorem lastSegment_of_named? {t : FileTree} {path : String} {directory : Place} {name : String}
    (h : t.named? path = some (directory ++ [name])) :
    Path.lastSegment path.toList = name.toList ∧ name ≠ "" ∧ name ≠ "." ∧ name ≠ ".." := by
  obtain ⟨directory', name', hp, heq⟩ := named?_eq_some h
  obtain ⟨rfl, hname⟩ := List.append_inj' heq rfl
  obtain rfl := List.singleton_inj.mp hname
  have hcut := names_of_locateParent hp
  exact ⟨lastSegment_of_cutLast (cutLast_eq_name_iff.mpr hcut), hcut.2⟩

/-! ## Places that may be changed -/

/-- A path names a place in a directory in which entries may be created, moved and removed, by a
name that is not too long. Every operation that does so asks this of its path. -/
def Changeable (t : FileTree) (path : String) (place : Place) : Prop :=
  ∃ directory name, t.locateParent path = .ok (directory, .name name false) ∧
    ¬ maxName < name.utf8ByteSize ∧ t.canChange directory = true ∧ place = directory ++ [name]

theorem Changeable.named {t : FileTree} {path : String} {place : Place}
    (h : t.Changeable path place) : t.named? path = some place := by
  obtain ⟨directory, name, hp, -, -, rfl⟩ := h
  exact named?_of_locateParent hp

/-- A name in the working directory. -/
theorem changeable_here {t : FileTree} {path name : String} {mode : Nat}
    (hdir : t.get? t.cwd = some (.directory mode)) (hs : t.canSearch t.cwd = true)
    (hchange : t.canChange t.cwd = true) (hcheck : checkPath path = .ok ())
    (hstart : Path.isAbsolute path.toList = false)
    (hfront : ∀ segment ∈ (cutLast path).1, segment = ".")
    (hlast : (cutLast path).2 = .name name false) (hlen : ¬ maxName < name.utf8ByteSize) :
    t.Changeable path (t.cwd ++ [name]) :=
  ⟨t.cwd, name, locateParent_here hdir hs hcheck hstart hfront hlast, hlen, hchange, rfl⟩

end HostInventory.FileTree
