import ZoneKeeper.Definition.Schema
import ZoneKeeper.Report

/-!
# Writing the definitions

A program of its own writes the definitions of all kinds to files, from where they are handed to the
server.
-/

namespace ZoneKeeper.Definition

def directory : String := "deploy/crds"

def fileName (kind : Kind) : String :=
  kind.plural ++ ".crd.yaml"

/-- Whose the definitions are, as the files say. -/
structure Ownership where
  year : Nat
  holder : String
  terms : String

def ownership : Ownership where
  year := 2025
  holder := "Erick Bourgeois, firestoned"
  terms := "MIT"

def heading (ownership : Ownership) : List String :=
  [ s!"# Copyright (c) {ownership.year} {ownership.holder}",
    s!"# SPDX-License-Identifier: {ownership.terms}",
    "#",
    "# This file is AUTO-GENERATED from src/crd.rs",
    "# DO NOT EDIT MANUALLY - Run `cargo run --bin crdgen` to regenerate",
    "#" ]

def unlines (lines : List String) : String :=
  String.join (lines.map fun line => line ++ "\n")

def content (kind : Kind) : String :=
  unlines (heading ownership) ++ Yaml.document kind.definition

def greeting : String :=
  "Generating CRD YAML files from src/crd.rs...\n"

def confirmation (kind : Kind) : String :=
  "  ✓ Generated " ++ fileName kind ++ "\n"

def farewell : String :=
  unlines
    [ "✓ Successfully generated CRD YAML files in deploy/crds/",
      "",
      "Next steps:",
      "  1. Review the generated files",
      "  2. Deploy with: kubectl apply -f deploy/crds/" ]

/-- Writes the files of some kinds, up to the first one that cannot be written. -/
def writeAll (output : String) (files : Files) : List Kind → Report
  | [] => { output := output ++ farewell, files }
  | kind :: kinds =>
      match files.write (Path.join directory (fileName kind)) (content kind).toUTF8 with
      | .ok files => writeAll (output ++ confirmation kind) files kinds
      | .error cause => .failed cause.message files output

def generate (files : Files) : Report :=
  match files.makeDirectories directory with
  | (.ok (), files) => writeAll greeting files [.zone, .record]
  | (.error cause, files) => .failed cause.message files

end ZoneKeeper.Definition
