import HostInventory.Proofs.Text.LineFeed
import HostInventory.Proofs.Text.Words
import HostInventory.Provider.Apt
import HostInventory.Provider.Dpkg
import HostInventory.Provider.Rpm

/-!
# Listings are read line by line

What a program lists is read in three steps: the octets are decoded, the text is cut into lines, and
each line says whether it lists a package. No step looks beyond a line feed, so that a line which
makes no sense, or is no UTF-8, costs its own package at most; the packages of all other lines are
read as if it were not there (`parsers_read_line_by_line`).

Decoding is the subject of `Text.LineFeed`. Of cutting, one thing could reach over a line feed: the
carriage return in front of it is dropped, but one at the end of the text is not. So it has to be
shown of each kind of line that it says the same with and without a carriage return at its end
(`Reading.HeedsLine`), which is a fact about the words of the line.
-/

namespace HostInventory

/-- Whether neither the carriage return of a line end nor an empty line says anything. -/
structure Reading.HeedsLine (readLine : List Char → Reading) : Prop where
  dropReturn : ∀ line, (readLine (Text.dropReturn line)).package? = (readLine line).package?
  empty : (readLine []).package? = none

/-! ## What one line says -/

namespace Dpkg

theorem heedsLine : Reading.HeedsLine readLine where
  dropReturn := by
    intro line
    rw [readLine, readLine, Text.trim_dropReturn]
  empty := rfl

end Dpkg

namespace Rpm

/-- The package of a line with the given words. -/
def listed? : List (List Char) → Option Package
  | [name, arch, version] =>
    some (.ofFields (String.ofList name) (String.ofList arch) (String.ofList version))
  | _ => none

theorem package?_readLine (line : List Char) :
    (readLine line).package? = listed? (Text.words line) := by
  rw [readLine]
  -- one case for each number of words, all above three alike
  rcases Text.words line with _ | ⟨name, _ | ⟨arch, _ | ⟨version, _ | ⟨_, _⟩⟩⟩⟩ <;> rfl

theorem heedsLine : Reading.HeedsLine readLine where
  dropReturn := by
    intro line
    rw [package?_readLine, package?_readLine, Text.words_dropReturn]
  empty := rfl

end Rpm

namespace Apt

/-- Whether a line starts as those do that list nothing. -/
def isRemark (line : List Char) : Bool :=
  Text.hasPrefix "Listing".toList line || Text.hasPrefix "WARNING".toList line

/-- The package of a line with the given words. -/
def listed? : List (List Char) → Option Package
  | first :: version :: arch :: _ =>
    some (.ofFields (String.ofList (((Text.cutAt? (· == '/') first).map Prod.fst).getD first))
      (String.ofList arch) (String.ofList version))
  | _ => none

theorem package?_readLine (line : List Char) :
    (readLine line).package? = if isRemark line then none else listed? (Text.words line) := by
  cases line with
  | nil => rfl
  | cons c rest =>
      rw [readLine, isRemark, List.isEmpty_cons, Bool.false_or]
      split
      · rfl
      · rcases Text.words (c :: rest) with _ | ⟨first, _ | ⟨version, _ | ⟨arch, _⟩⟩⟩
        · rfl
        · rfl
        · rfl
        · cases hcut : Text.cutAt? (· == '/') first <;> simp [listed?, Reading.package?, hcut]

theorem isRemark_dropReturn (line : List Char) :
    isRemark (Text.dropReturn line) = isRemark line := by
  rw [isRemark, isRemark, Text.hasPrefix_dropReturn (by decide),
    Text.hasPrefix_dropReturn (by decide)]

theorem heedsLine : Reading.HeedsLine readLine where
  dropReturn := by
    intro line
    rw [package?_readLine, package?_readLine, isRemark_dropReturn, Text.words_dropReturn]
  empty := rfl

end Apt

/-! ## What all lines say -/

def Reading.packages (readLine : List Char → Reading) (text : List Char) : List Package :=
  ((Text.lines text).map readLine).filterMap package?

/-- Whether what is listed on both sides of a line feed is what each side lists, and what lines list
is what each of them lists. -/
structure GoesLineByLine (parse : Octets → List Package) : Prop where
  append : ∀ a b : Octets, parse (a ++ 0x0A :: b) = parse a ++ parse b
  lines : ∀ ls : List Octets, parse (.ofLines ls) = ls.flatMap parse

theorem Reading.HeedsLine.goesLineByLine {readLine : List Char → Reading}
    (h : HeedsLine readLine) :
    GoesLineByLine fun data => packages readLine (Utf8.lossyChars data) := by
  have happend : ∀ a b : Octets, packages readLine (Utf8.lossyChars (a ++ 0x0A :: b)) =
      packages readLine (Utf8.lossyChars a) ++ packages readLine (Utf8.lossyChars b) := by
    intro a b
    simp only [packages, List.filterMap_map, Utf8.lossyChars_append_lineFeed]
    exact Text.filterMap_lines_append h.dropReturn h.empty _ _
  refine ⟨happend, fun ls => ?_⟩
  induction ls with
  | nil => rfl
  | cons line ls ih =>
      by_cases hls : ls = []
      · rw [hls, List.flatMap_singleton]
        rfl
      · rw [Octets.ofLines_cons hls, happend, ih, List.flatMap_cons]

/-- Each listing is read line by line: whatever stands before or behind a line feed, be it no UTF-8
or no line of the listing, the packages of the other side are the same, and in the same order. -/
theorem parsers_read_line_by_line :
    GoesLineByLine Dpkg.parseInstalled ∧ GoesLineByLine Rpm.parseInstalled ∧
      GoesLineByLine fun data => Apt.parseUpgradable (Utf8.lossyChars data) :=
  ⟨Dpkg.heedsLine.goesLineByLine, Rpm.heedsLine.goesLineByLine, Apt.heedsLine.goesLineByLine⟩

-- a character cut short in front of the line feed
example : Rpm.parseInstalled ([0x61, 0x20, 0xE2, 0x82] ++ 0x0A :: Utf8.encode "b noarch 1") =
    [.ofFields "b" "noarch" "1"] := by
  decide +kernel

end HostInventory
