import QuestMod.Path.Basic
import QuestMod.Text.Quoted

/-!
# Settings of a generation run

Output places and build settings. Every setting has a default. The class and
resource directories must be separate subdirectories of the output directory, because
cleaning up treats every source file in a class directory as its own.
-/

namespace QuestMod

/-- Output places and build settings. -/
structure Settings where
  outputDirectory : Path := ⟨"generated"⟩
  targetFramework : String := "netstandard2.1"
  languageVersion : String := "latest"
  /-- Directory in which the game is installed. -/
  gameDirectory : Path := ⟨"Schedule I"⟩
  /-- Directory of reference assemblies that replaces the one of the game. -/
  customReferences : Option Path := none
  gameDeveloper : String := "TVGS"
  gameName : String := "Schedule I"
  copyRetries : UInt32 := 3
  copyBackoff : UInt64 := 100
  checkSources : Bool := true
  questDirectory : String := "Quests"
  npcDirectory : String := "NPCs"
  resourceDirectory : String := "Resources"
  deriving DecidableEq

/-- How often a copy is tried, and how long a failed try waits. -/
structure RetryPolicy where
  /-- Number of tries; zero counts as one. -/
  attempts : Nat := 3
  /-- Milliseconds to wait behind the first try; the wait behind a later try is that
  many times longer. Waits have no bound here. A clock that counts seconds in 64 bits cannot
  count every product of a wait and a number of tries, and stops the program at one it
  cannot. -/
  backoff : Nat := 100
  deriving DecidableEq

namespace Settings

/-- Directory of the reference assemblies. -/
def referenceDirectory (settings : Settings) : Path :=
  match settings.customReferences with
  | some path => path
  | none => (settings.gameDirectory.child "MelonLoader").child "Il2CppAssemblies"

/-- The copy policy that the settings ask for. -/
def retryPolicy (settings : Settings) : RetryPolicy where
  attempts := max settings.copyRetries.toNat 1
  backoff := settings.copyBackoff.toNat

/-- Directory of quest classes. -/
def questFolder (settings : Settings) : Path :=
  settings.outputDirectory.child settings.questDirectory

/-- Directory of character classes. -/
def npcFolder (settings : Settings) : Path :=
  settings.outputDirectory.child settings.npcDirectory

/-- Directory of resources. -/
def resourceFolder (settings : Settings) : Path :=
  settings.outputDirectory.child settings.resourceDirectory

/-- The settings that name a subdirectory. -/
inductive DirectoryKey
  | quest
  | npc
  | resource
  deriving DecidableEq

/-- How settings files name a subdirectory. -/
def DirectoryKey.label : DirectoryKey → String
  | .quest => "quest_dir"
  | .npc => "npc_dir"
  | .resource => "resource_dir"

/-- Why the subdirectories cannot be used. -/
inductive LayoutFailure
  | noSubdirectory (key : DirectoryKey) (name : String)
  | overlap (key : DirectoryKey) (name : String) (otherKey : DirectoryKey) (otherName : String)
  deriving DecidableEq

/-- The wording of a layout failure. -/
def LayoutFailure.message : LayoutFailure → String
  | .noSubdirectory key name =>
      key.label ++ " " ++ Text.quoted name ++
        " must be a relative subdirectory of the output directory"
  | .overlap key name otherKey otherName =>
      key.label ++ " " ++ Text.quoted name ++ " and " ++ otherKey.label ++ " " ++
        Text.quoted otherName ++ " overlap; each needs its own directory"

/-- Names along a relative path as they are shown, single dots left out. Roots and double
dots have none. -/
def relativeNames? : List Path.Component → Option (List String)
  | [] => some []
  | .named name :: rest => (relativeNames? rest).map (name.shown :: ·)
  | .current :: rest => relativeNames? rest
  | _ :: _ => none

/-- Lower-case names along a path to a proper subdirectory. -/
def subdirectoryNames? (name : String) : Option (List String) :=
  match relativeNames? (Path.mk name).components with
  | some (first :: rest) => some ((first :: rest).map Text.foldCase)
  | _ => none

/-- The subdirectories in the order in which they are checked. -/
def subdirectories (settings : Settings) : List (DirectoryKey × String) :=
  [(.quest, settings.questDirectory), (.npc, settings.npcDirectory),
    (.resource, settings.resourceDirectory)]

/-- A subdirectory with its names. -/
structure ParsedDirectory where
  key : DirectoryKey
  name : String
  parts : List String

/-- The subdirectory with its names, or the failure that it is none. -/
def parseDirectory (entry : DirectoryKey × String) : Except LayoutFailure ParsedDirectory :=
  match subdirectoryNames? entry.2 with
  | some parts => .ok ⟨entry.1, entry.2, parts⟩
  | none => .error (.noSubdirectory entry.1 entry.2)

/-- One directory lies at or below the other. -/
def ParsedDirectory.overlaps (first second : ParsedDirectory) : Bool :=
  first.parts.isPrefixOf second.parts || second.parts.isPrefixOf first.parts

/-- The first pair of overlapping directories. -/
def firstOverlap? : List ParsedDirectory → Option LayoutFailure
  | [] => none
  | first :: rest =>
      match rest.find? first.overlaps with
      | some second => some (.overlap first.key first.name second.key second.name)
      | none => firstOverlap? rest

/-- Checks that the subdirectories are separate and proper. -/
def checkDirectories (settings : Settings) : Except LayoutFailure Unit := do
  let parsed ← settings.subdirectories.mapM parseDirectory
  match firstOverlap? parsed with
  | some failure => .error failure
  | none => .ok ()

end Settings
end QuestMod
