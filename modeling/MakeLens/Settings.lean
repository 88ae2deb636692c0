import MakeLens.Glob
import MakeLens.Json
import MakeLens.Index

/-! # Settings

  What a user can choose: which features answer, how the index behaves, and which
  files count as build files.
-/

namespace MakeLens

/-- The features that answer. -/
structure FeatureSettings where
  hover : Bool
  definition : Bool
  documentSymbols : Bool
  deriving DecidableEq, Repr

/-- How the index behaves. -/
structure IndexSettings where
  /-- How many definitions an expansion enters at a time. -/
  maxExpansionDepth : Nat
  /-- Whether every edit of an open file is scanned, rather than only its saved
      text. -/
  reindexOnChange : Bool
  deriving DecidableEq, Repr

/-- Which files count as build files. -/
structure WorkspaceSettings where
  filePatterns : List String
  deriving DecidableEq, Repr

/-- All settings. -/
structure Settings where
  features : FeatureSettings
  index : IndexSettings
  workspace : WorkspaceSettings
  deriving DecidableEq, Repr

namespace Settings

/-- The patterns of build file names unless settings say otherwise. -/
def defaultPatterns : List String :=
  ["Makefile", "makefile", "GNUmakefile", "*.mk", "*.make"]

/-- The settings before anybody has chosen. -/
def default : Settings where
  features := ⟨true, true, true⟩
  index := ⟨Index.defaultDepth, true⟩
  workspace := ⟨defaultPatterns⟩

/-- The language that editors give to build files. -/
def languageId : String := "makefile"

/-- The file in a workspace that holds its settings. -/
def fileName : String := "makefile-lsp.toml"

/-- Whether a file is a build file: its editor says so, or its name matches one of the
    patterns. -/
def isBuildFile (settings : Settings) (path : FilePath) (language : Option String) : Bool :=
  language == some languageId ||
    settings.workspace.filePatterns.any fun pattern => Glob.matchName pattern path.patternName

/-! ### As JSON -/

/-- The features as JSON. -/
def featuresJson (features : FeatureSettings) : Json :=
  .ofMembers [("hover", .bool features.hover), ("definition", .bool features.definition),
    ("document_symbols", .bool features.documentSymbols)]

/-- Settings as JSON. -/
def toJson (settings : Settings) : Json :=
  .ofMembers [
    ("features", featuresJson settings.features),
    ("index", .ofMembers [
      ("max_expansion_depth", .int settings.index.maxExpansionDepth),
      ("reindex_on_change", .bool settings.index.reindexOnChange)]),
    ("workspace", .ofMembers [
      ("file_patterns", .arr (settings.workspace.filePatterns.map Json.str))])]

end Settings

end MakeLens
