import HostInventory.Extraction.Basic
import HostInventory.Proofs.Text.Cut

/-!
# Reading package URLs

A package URL is put together without escapes, and its architecture is left out if it is empty.
It can be read all the same (`read?_packageUrl`): the namespace ends at the first slash, the name at
the first `@` and the version at the first `?`, as long as each of them is free of the mark that
ends it. Nothing is asked of the architecture, which stands last. So packages with one URL are the
same package (`packageUrl_eq_iff`).
-/

namespace HostInventory

structure PackageUrl where
  scope : List Char
  name : List Char
  version : List Char
  arch : List Char
deriving Repr, DecidableEq

namespace PackageUrl

/-- Reads the version and the architecture behind it, which is empty where no mark announces it. -/
def readVersion? (s : List Char) : Option (List Char × List Char) :=
  match Text.cutAt? (· == '?') s with
  | none => some (s, [])
  | some (version, rest) => (Text.afterPrefix? "arch=".toList rest).map (version, ·)

def read? (url : List Char) : Option PackageUrl := do
  let rest ← Text.afterPrefix? "pkg:deb/".toList url
  let (scope, rest) ← Text.cutAt? (· == '/') rest
  let (name, rest) ← Text.cutAt? (· == '@') rest
  let (version, arch) ← readVersion? rest
  return { scope, name, version, arch }

/-- What stands behind the version. -/
def archPart (arch : List Char) : List Char :=
  if arch = [] then [] else '?' :: ("arch=".toList ++ arch)

section Mark

variable {mark : Char} {xs : List Char}

theorem beq_mark_of_mem (h : mark ∉ xs) : ∀ x ∈ xs, (x == mark) = false := fun x hx => by
  refine beq_eq_false_iff_ne.mpr ?_
  rintro rfl
  exact h hx

theorem cutAt?_mark (h : mark ∉ xs) (ys : List Char) :
    Text.cutAt? (· == mark) (xs ++ mark :: ys) = some (xs, ys) :=
  Text.cutAt?_append (beq_mark_of_mem h) (beq_self_eq_true mark) ys

end Mark

theorem readVersion?_archPart {version : List Char} (h : '?' ∉ version) (arch : List Char) :
    readVersion? (version ++ archPart arch) = some (version, arch) := by
  by_cases hnil : arch = []
  · rw [archPart, if_pos hnil, List.append_nil, readVersion?,
      Text.cutAt?_of_all_not (beq_mark_of_mem h), hnil]
  · rw [archPart, if_neg hnil, readVersion?, cutAt?_mark h]
    dsimp only
    rw [Text.afterPrefix?_append]
    rfl

end PackageUrl

/-- The namespace is the identity of the distribution, unless that is missing or empty. -/
theorem packageNamespace_eq (osId : Option String) :
    packageNamespace osId = (osId.filter (· ≠ "")).getD "linux" := by
  cases osId with
  | none => rfl
  | some id =>
      rw [packageNamespace, Option.filter_some]
      by_cases h : id = ""
      · simp [h, unknownNamespace]
      · simp [h]

theorem not_mem_packageNamespace {osId : Option String} (h : ∀ id ∈ osId, '/' ∉ id.toList) :
    '/' ∉ (packageNamespace osId).toList := by
  unfold packageNamespace
  split
  · rename_i id
    split
    · decide
    · exact h id rfl
  · decide

theorem toList_packageUrl (name version arch : String) (osId : Option String) :
    (packageUrl name version arch osId).toList =
      "pkg:deb/".toList ++ ((packageNamespace osId).toList ++ '/' ::
        (name.toList ++ '@' :: (version.toList ++ PackageUrl.archPart arch.toList))) := by
  rw [packageUrl, PackageUrl.archPart]
  by_cases h : arch = ""
  · simp [h]
  · simp [h]

/-- Every part of a package URL is read back. -/
theorem read?_packageUrl {name version : String} {osId : Option String}
    (hname : '@' ∉ name.toList) (hversion : '?' ∉ version.toList)
    (hosId : ∀ id ∈ osId, '/' ∉ id.toList) (arch : String) :
    PackageUrl.read? (packageUrl name version arch osId).toList =
      some ⟨(packageNamespace osId).toList, name.toList, version.toList, arch.toList⟩ := by
  rw [toList_packageUrl, PackageUrl.read?, Text.afterPrefix?_append, Option.bind_eq_bind,
    Option.bind_some, PackageUrl.cutAt?_mark (not_mem_packageNamespace hosId),
    Option.bind_eq_bind, Option.bind_some]
  simp only [PackageUrl.cutAt?_mark hname, PackageUrl.readVersion?_archPart hversion,
    Option.bind_some]
  rfl

/-- Two packages have one URL just if their names, versions and architectures are the same and their
distributions have the same namespace. -/
theorem packageUrl_eq_iff {name version name' version' : String} {osId osId' : Option String}
    (hname : '@' ∉ name.toList) (hversion : '?' ∉ version.toList)
    (hosId : ∀ id ∈ osId, '/' ∉ id.toList) (hname' : '@' ∉ name'.toList)
    (hversion' : '?' ∉ version'.toList) (hosId' : ∀ id ∈ osId', '/' ∉ id.toList)
    (arch arch' : String) :
    packageUrl name version arch osId = packageUrl name' version' arch' osId' ↔
      name = name' ∧ version = version' ∧ arch = arch' ∧
        (osId.filter (· ≠ "")).getD "linux" = (osId'.filter (· ≠ "")).getD "linux" := by
  rw [← packageNamespace_eq, ← packageNamespace_eq]
  constructor
  · intro h
    have hread := read?_packageUrl hname hversion hosId arch
    rw [h, read?_packageUrl hname' hversion' hosId' arch'] at hread
    obtain ⟨hscope, hname, hversion, harch⟩ := PackageUrl.mk.inj (Option.some.inj hread)
    exact ⟨(String.toList_inj.mp hname).symm, (String.toList_inj.mp hversion).symm,
      (String.toList_inj.mp harch).symm, (String.toList_inj.mp hscope).symm⟩
  · rintro ⟨rfl, rfl, rfl, hscope⟩
    rw [packageUrl, packageUrl, hscope]

/-- Marks of other parts are read as what they are, and an empty identity is none. -/
theorem packageUrl_eq_iff_unknown :
    '@' ∉ "a/b?c".toList ∧ '?' ∉ "1@2/3".toList ∧ (∀ id ∈ some "", '/' ∉ id.toList) ∧
      packageUrl "a/b?c" "1@2/3" "?arch=d" none = packageUrl "a/b?c" "1@2/3" "?arch=d" (some "") ∧
      packageUrl "a/b?c" "1@2/3" "?arch=d" none ≠
        packageUrl "a/b?c" "1@2/3" "?arch=d" (some "b") := by
  have hname : '@' ∉ "a/b?c".toList := by decide
  have hversion : '?' ∉ "1@2/3".toList := by decide
  have hnone : ∀ id ∈ (none : Option String), '/' ∉ id.toList := nofun
  have hempty : ∀ id ∈ some "", '/' ∉ id.toList := by decide
  refine ⟨hname, hversion, hempty, ?_, fun h => ?_⟩
  · exact (packageUrl_eq_iff hname hversion hnone hname hversion hempty _ _).mpr
      ⟨rfl, rfl, rfl, by decide⟩
  · have hb : ∀ id ∈ some "b", '/' ∉ id.toList := by decide
    obtain ⟨-, -, -, hscope⟩ :=
      (packageUrl_eq_iff hname hversion hnone hname hversion hb _ _).mp h
    revert hscope
    decide

end HostInventory
