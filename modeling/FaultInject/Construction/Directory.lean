import FaultInject.Construction.Record
import FaultInject.Python.Glob
import FaultInject.Python.Lines
import FaultInject.Python.Utf8
import Mathlib.Data.List.Sort

/-
This file models the files under one run directory by their paths in it.
-/

namespace FaultInject
open Python Record

/-- A file holds bytes or text. A file with the JSON form of a record holds the record. -/
inductive File where
  | bytes (content : Bytes)
  | text (content : String)
  | record (content : RunRecord)

namespace File

/-- This is `path.read_bytes()`. -/
def readBytes : File → Bytes
  | bytes content => content
  | text content => encodeUtf8 content
  | record content => encodeUtf8 (Json.dumps 0 content.toValue)

/-- This is `path.read_text(encoding="utf-8")`. -/
def readText (file : File) : Result String :=
  match file with
  | bytes content => (decodeStrict content).map translate
  | text content => .ok (translate content)
  | record content => .ok (translate (Json.dumps 0 content.toValue))

/-- This is `path.read_text(encoding="utf-8", errors="replace")`. -/
def readTextReplace (file : File) : String :=
  translate (match file with
    | bytes content => decodeReplace content
    | text content => content
    | record content => Json.dumps 0 content.toValue)

/-- This is `path.stat().st_size`. -/
def size (file : File) : Nat := file.readBytes.length

/-- This is a file, which need not exist before, with a text behind its content. -/
def appended (file : Option File) (addition : String) : File :=
  match file with
  | none => text addition
  | some (text content) => text (content ++ addition)
  | some (bytes content) => bytes (content ++ encodeUtf8 addition)
  | some (record content) => text (Json.dumps 0 content.toValue ++ addition)

end File

/-- A run directory maps the paths of its files to the files. -/
abbrev Directory := Dict String File

namespace Directory

/-- This is `(run_dir / name).is_file()`. -/
def isFile (runDir : Directory) (name : String) : Bool := runDir.contains name

/-- An open file that does not exist is an error. -/
def file (runDir : Directory) (name : String) : Result File :=
  match runDir.get? name with
  | some file => .ok file
  | none => .error (.fileNotFoundError name)

/-- This is `path.open("a", encoding="utf-8")` with one write. -/
def appendText (runDir : Directory) (name addition : String) : Directory :=
  runDir.set name (File.appended (runDir.get? name) addition)

/-- This is `record.to_json_path(run_dir)`. -/
def toJsonPath (runDir : Directory) (record : RunRecord) : Directory :=
  runDir.set s!"{record.runId}.json" (.record record)

/-- This is `RunRecord.from_json(path)`. -/
def fromJson (runDir : Directory) (name : String) : Result RunRecord := do
  match ← runDir.file name with
  | .record record => .ok record
  | .text _ => .error (.valueError "not the JSON form of a record")
  | .bytes _ => .error (.valueError "not the JSON form of a record")

/-- This is `run_dir.glob(pattern)`. -/
def glob (runDir : Directory) (pattern : String) : List String :=
  (runDir.entries.map Prod.fst).filter (Glob.globMatch pattern)

/-- This is the file of `run_dir / record.artifacts.get(key, "")` if it is one. -/
def artifactFile (runDir : Directory) (record : RunRecord) (key : String) : Option File :=
  match record.artifacts.get? key with
  | some name => if name = "" then none else runDir.get? name
  | none => none

/-- These are the paths of `sorted(run_dir.glob("*.json"))`. -/
def jsonPaths (runDir : Directory) : List String :=
  ((runDir.entries.map Prod.fst).filter fun name =>
    ".json".toList.isSuffixOf name.toList && '/' ∉ name.toList).insertionSort (· ≤ ·)

end Directory

end FaultInject
