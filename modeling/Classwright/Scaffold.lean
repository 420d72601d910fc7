import Classwright.FileTree
import Classwright.HeaderGuard
import Classwright.Text.CaseMap
/-!
# New files and regions

The text of the files of a new class and of a new unit test, and the markers around a region.
Templates hold placeholders for the name.
-/
namespace Classwright

/-- Templates and names for what is generated. -/
structure Templates where
  headerExtension : Text
  sourceExtension : Text
  classTemplate : Text
  unitTestTemplate : Text
  regionStart : Text
  regionEnd : Text
  guardPattern : Text
deriving DecidableEq

namespace Templates

/-- The templates when none are given. -/
def usual : Templates where
  headerExtension := ".hpp"
  sourceExtension := ".cpp"
  classTemplate := "\nclass $\x7bclassName\x7d\n\x7b\npublic:\n" ++
    "    $\x7bclassName\x7d();\n    ~$\x7bclassName\x7d();\n\x7d;\n"
  unitTestTemplate := "#include <gtest/gtest.h>\n\nTEST($\x7bfileName\x7dTest, Basic)\n\x7b\n\x7d\n"
  regionStart := "#pragma region"
  regionEnd := "#pragma endregion"
  guardPattern := HeaderGuard.usualPattern

end Templates

/-- A file to be made. A file that is already there is only reported. -/
structure NewFile where
  path : Path
  content : Text
  alreadyThere : Bool

namespace NewFile

def classPlaceholder : Text := "$\x7bclassName\x7d"

def filePlaceholder : Text := "$\x7bfileName\x7d"

def inDirectory (tree : FileTree) (dir : Path) (name content : Text) : NewFile :=
  let path := dir.join (.ofText name)
  ⟨path, content, tree.pathExists path⟩

/-- The text of the header of a class: the filled template in a guard. -/
def headerText (name : Text) (ts : Templates) : Text :=
  let guard := HeaderGuard.nameOf name ts.guardPattern
  HeaderGuard.ifndefText guard ++ "\n" ++ HeaderGuard.defineText guard ++ "\n" ++
    ts.classTemplate.replace classPlaceholder name ++ "\n" ++ HeaderGuard.endifText guard ++ "\n"

def header (tree : FileTree) (dir : Path) (name : Text) (ts : Templates) : NewFile :=
  inDirectory tree dir (name ++ ts.headerExtension) (headerText name ts)

/-- The source of a new class, which includes its header. -/
def source (tree : FileTree) (dir : Path) (name : Text) (ts : Templates) : NewFile :=
  inDirectory tree dir (name ++ ts.sourceExtension)
    ("#include \"" ++ name ++ ts.headerExtension ++ "\"\n")

/-- A new unit test; its name is in lower case. -/
def unitTest (tree : FileTree) (dir : Path) (name : Text) (ts : Templates) : NewFile :=
  let name := name.lower
  inDirectory tree dir ("test_" ++ name ++ ".cpp")
    (ts.unitTestTemplate.replace filePlaceholder name.upperFirst)

end NewFile

/-- Edits that put the markers of a region around a selection. -/
def regionEdits (selection : Range) (ts : Templates) : List TextEdit :=
  [.insert selection.start ('\n' :: ts.regionStart ++ "\n"),
    .insert selection.stop ('\n' :: ts.regionEnd ++ "\n")]

end Classwright
