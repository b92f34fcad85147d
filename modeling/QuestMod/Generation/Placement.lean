import QuestMod.Path.Map
import QuestMod.Settings.Basic
import QuestMod.Source.Identifier
import QuestMod.Source.NameSet
import QuestMod.Storage.Program

/-!
# Copying resources

Every declared file that exists gets a name of its own in the resource directory and is
copied there. Sources that lead to the same place share one copy. A file that is
missing or cannot be copied is reported, and the others are copied all the same. A copy
is tried a bounded number of times, with a longer wait behind each failed try.
-/

namespace QuestMod
namespace Generation

open Source (NameSet)
open Storage (Failure Program)

/-- The name of a resource's copy: its stem made an identifier, and its extension in
lower case. A stem or extension that is no text counts as missing. -/
def targetName (source : Path) : String :=
  let stem := Source.usableIdentifier ((source.stem?.bind RawText.text?).getD "") "resource"
  match source.extension?.bind RawText.text? with
  | some extension => if extension.isEmpty then stem else stem ++ "." ++ Text.foldCase extension
  | none => stem

/-- A file name with a number behind its stem. -/
def numberedFileName (wanted : String) : Nat → String
  | 0 => wanted
  | number =>
      match Text.splitLastDot wanted with
      | some (stem, extension) => stem ++ "_" ++ toString number ++ "." ++ extension
      | none => wanted ++ "_" ++ toString number

/-- The file name with the least number that differs from all used names by more than
the case of letters. Used names are in lower case. -/
def freeFileName (wanted : String) (used : NameSet) : String :=
  match (List.range (used.size + 1)).find? fun number =>
      !used.contains (Text.foldCase (numberedFileName wanted number)) with
  | some number => numberedFileName wanted number
  | none => numberedFileName wanted (used.size + 1)

/-- The name under which the build embeds a resource. -/
def manifestName (root directoryName : String) (source : Path) : String :=
  root ++ "." ++ directoryName ++ "." ++ targetName source

/-- Something worth knowing about a resource. -/
inductive ResourceNotice
  | renamed (source : Path) (name wanted : String)
  | inPlace (target : Path)
  | upToDate (target : Path)
  deriving DecidableEq

/-- The wording of a notice. -/
def ResourceNotice.message : ResourceNotice → String
  | .renamed source name wanted =>
      "resource " ++ source.text ++ " embedded as " ++ name ++
        ": another resource already uses " ++ wanted
  | .inPlace target => "resource " ++ target.text ++ " already in place; not copied"
  | .upToDate target => "resource " ++ target.text ++ " already up to date"

/-- A copy that was given up. -/
structure CopyFailure where
  source : Path
  target : Path
  /-- Number of tries. -/
  attempts : Nat
  /-- Failure of the last try. -/
  cause : Failure
  deriving DecidableEq

/-- The wording of a failed copy. -/
def CopyFailure.message (failure : CopyFailure) : String :=
  "failed to copy " ++ failure.source.text ++ " to " ++ failure.target.text ++ " after " ++
    toString failure.attempts ++ " attempt(s): " ++ failure.cause.message

/-- Why a resource is not in its place. -/
inductive ResourceFailure
  | missing (sources : List Path) (directory : Path)
  | noDirectory (directory : Path) (cause : Failure)
  | notCopied (failure : CopyFailure)
  deriving DecidableEq

/-- The line on one missing resource. -/
def missingLine (directory source : Path) : String :=
  let name := targetName source
  "\n  - " ++ name ++ " (expected at " ++ source.text ++ ", would be copied to " ++
    (directory.child name).text ++ ")"

/-- The wording of a failure. -/
def ResourceFailure.message : ResourceFailure → String
  | .missing sources directory =>
      toString sources.length ++ " resource file(s) not found:" ++
        String.join (sources.map (missingLine directory))
  | .noDirectory directory cause =>
      "cannot create resource directory " ++ directory.text ++ ": " ++ cause.message
  | .notCopied failure => failure.message

/-- The one failure for all missing resources, unless none is missing. -/
def missingFailure? (missing : List Path) (directory : Path) : Option ResourceFailure :=
  if missing.isEmpty then none else some (.missing missing directory)

/-- The declared paths that are no files. -/
def missingFiles : List Path → Program (List Path)
  | [] => return []
  | source :: sources => do
      let isFile ← Program.isFile source
      let missing ← missingFiles sources
      return if isFile then missing else source :: missing

/-- Tries to copy a file, with some tries left behind the current one. -/
def tryCopy (backoff : Nat) (source target : Path) :
    Nat → Nat → Program (Except CopyFailure Nat)
  | left, attempt => do
      match ← Program.copy source target with
      | .ok count => return .ok count
      | .error cause =>
          if cause.kind = .notFound then return .error ⟨source, target, attempt, cause⟩
          else
            match left with
            | 0 => return .error ⟨source, target, attempt, cause⟩
            | left + 1 => do
                Program.sleep (backoff * attempt)
                tryCopy backoff source target left (attempt + 1)

/-- Copies a file as often as the policy allows. A missing source is not tried
again. -/
def retryCopy (source target : Path) (policy : RetryPolicy) :
    Program (Except CopyFailure Nat) :=
  tryCopy policy.backoff source target (max 1 policy.attempts - 1) 1

/-- What happened to the resources of one run. -/
structure PlacementReport where
  /-- Copies that are in place, one for each distinct file. -/
  copied : List Path := []
  /-- The copy chosen for each existing source. -/
  destinations : Path.Map Path := .empty
  notices : List ResourceNotice := []
  failures : List ResourceFailure := []
  deriving DecidableEq

/-- Resources placed so far. -/
structure Placement where
  /-- File names that are taken, in lower case. -/
  usedNames : NameSet := .empty
  /-- Places of the sources with their copies, latest first. -/
  placed : List (Path × Path) := []

/-- The copy of a source that leads to the same place. -/
def Placement.copyOf? (placement : Placement) (place : Path) : Option Path :=
  (placement.placed.find? fun entry => entry.1.sameAs place).map (·.2)

/-- The notice of a resource whose name is not the wanted one. -/
def renameNotices (source : Path) (name wanted : String) : List ResourceNotice :=
  if name = wanted then [] else [.renamed source name wanted]

/-- What became of one copy. -/
inductive CopyOutcome
  | inPlace
  | upToDate
  | copied
  | failed (failure : CopyFailure)

/-- Brings one source to its copy, unless the copy is there already. -/
def bring (source place target : Path) (policy : RetryPolicy) : Program CopyOutcome := do
  let targetPlace ← Program.canonical target
  if place.sameAs targetPlace then return .inPlace
  else
    let wanted ← Program.read source
    let existing ← Program.read target
    match wanted, existing with
    | .ok wanted, .ok existing =>
        if wanted = existing then return .upToDate else finish
    | _, _ => finish
where
  /-- Copies the file. -/
  finish : Program CopyOutcome := do
    match ← retryCopy source target policy with
    | .ok _ => return .copied
    | .error failure => return .failed failure

/-- The report with the outcome of a copy. -/
def PlacementReport.record (report : PlacementReport) (target : Path) :
    CopyOutcome → PlacementReport
  | .inPlace =>
      { report with
        copied := report.copied ++ [target]
        notices := report.notices ++ [.inPlace target] }
  | .upToDate =>
      { report with
        copied := report.copied ++ [target]
        notices := report.notices ++ [.upToDate target] }
  | .copied => { report with copied := report.copied ++ [target] }
  | .failed failure => { report with failures := report.failures ++ [.notCopied failure] }

/-- Places and copies existing sources, one after the other. -/
def placeSources (directory : Path) (policy : RetryPolicy) :
    List Path → Placement → PlacementReport → Program PlacementReport
  | [], _, report => return report
  | source :: sources, placement, report => do
      let place ← Program.canonical source
      match placement.copyOf? place with
      | some target =>
          placeSources directory policy sources placement
            { report with destinations := report.destinations.insert source target }
      | none =>
          let wanted := targetName source
          let name := freeFileName wanted placement.usedNames
          let target := directory.child name
          let outcome ← bring source place target policy
          placeSources directory policy sources
            ⟨placement.usedNames.insert (Text.foldCase name),
              (place, target) :: placement.placed⟩
            ({ report with
              destinations := report.destinations.insert source target
              notices := report.notices ++ renameNotices source name wanted }.record target
                outcome)

/-- Copies all declared files that exist into a directory. -/
def placeResources (sources : List Path) (directory : Path) (policy : RetryPolicy) :
    Program PlacementReport := do
  if sources.isEmpty then return {}
  else
    let missing ← missingFiles sources
    let failures := (missingFailure? missing directory).toList
    match ← Program.createDirectories directory with
    | .error cause => return { failures := failures ++ [.noDirectory directory cause] }
    | .ok () =>
        let existing := sources.filter fun source => !missing.any source.sameAs
        placeSources directory policy existing {} { failures }

end Generation
end QuestMod
