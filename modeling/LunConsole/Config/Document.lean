import LunConsole.Config.Basic
import LunConsole.Yaml.Value
/-!
# Configuration as a YAML document

A configuration is a mapping from the names of settings to values; what it does not mention keeps
its standard value, and names that it does not know are passed over. Text may be any scalar. A
number must be a plain one, in decimal or with one of the marks `0x`, `0o` and `0b`, and a text
without a document, or with an empty one, is a configuration that mentions nothing.
-/

set_option autoImplicit false

namespace LunConsole

/-- Reads a label: both of its parts must be given. -/
def Label.ofNode (d : Yaml.Document) (n : Yaml.Node) : Except Yaml.Fault Label := do
  let es ← d.entries? ["key", "value"] n
  return { key := ← es.required "key" d.text?, value := ← es.required "value" d.text? }

/-- Reads requirements. -/
def Requirements.ofNode (d : Yaml.Document) (n : Yaml.Node) : Except Yaml.Fault Requirements := do
  let es ← d.entries? ["minNodes", "minSharedDisks"] n
  return {
    minNodes := ← es.orStandard "minNodes" standard.minNodes d.count?
    minSharedDisks := ← es.orStandard "minSharedDisks" standard.minSharedDisks d.count? }

namespace Config

/-- Reads a configuration from a node. -/
def ofNode (d : Yaml.Document) (n : Yaml.Node) : Except Yaml.Fault Config := do
  let es ← d.entries?
    ["namespace", "storageRoleLabel", "workerNodeSelector", "requirements"] n
  return {
    watchedNamespace := ← es.orStandard "namespace" standard.watchedNamespace d.text?
    storageRoleLabel :=
      ← es.orStandard "storageRoleLabel" standard.storageRoleLabel (Label.ofNode d)
    workerNodeSelector :=
      ← es.orStandard "workerNodeSelector" standard.workerNodeSelector d.text?
    requirements :=
      ← es.orStandard "requirements" standard.requirements (Requirements.ofNode d) }

/-- Reads a configuration from the text of a document. -/
def ofText (text : String) : Except Yaml.Fault Config := do
  match ← Yaml.Document.read text with
  | some d => ofNode d d.root
  | none => return standard

/-- Reads a configuration under which a console can work. -/
def load (text : String) : Except ConsoleError Config :=
  match ofText text with
  | .error fault => .error (.invalidYaml fault)
  | .ok c => c.validate.map fun _ => c

end Config

end LunConsole
