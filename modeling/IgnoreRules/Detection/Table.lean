import IgnoreRules.Detection.Basic

/-!
# The detectors in use

The marker files of the languages for which there are ignore templates.
-/

namespace IgnoreRules

namespace Detectors

/-- A detector for files of these names. -/
def named (template : String) (names : List String) : Detector :=
  ⟨template.toList, names.map fun n => .name n.toList⟩

/-- The detector with one more marker in front: an extension. -/
def orExtension (extension : String) (d : Detector) : Detector :=
  { d with markers := .extension extension.toList :: d.markers }

/-- The detectors used unless others are given. -/
def standard : Detectors :=
  [named "crystal" ["shard.yml"],
    named "dart" ["pubspec.yaml", "pubspec.yml", "pubspec.lock"],
    named "elixir" ["mix.exs"],
    named "elm" ["elm.json", "elm-package.json", ".elm-version"],
    named "erlang" ["rebar.config", "erlang.mk"],
    orExtension "cabal" (named "haskell" ["stack.yaml", "Setup.hs"]),
    named "go" ["go.mod", "go.sum", "glide.yaml", "Gopkg.yml", "Gopkg.lock", ".go-version"],
    named "java" ["build.gradle", "pom.xml", "build.gradle.kts", "build.sbt", ".java.version",
      "deps.edn", "project.clj", "build.boot"],
    named "julia" ["Project.toml", "Manifest.toml"],
    named "nim" ["nim.cfg"],
    named "node" ["package.json", ".node-version", ".nvmrc"],
    orExtension "opam" (named "ocaml" ["dune", "dune-project", "jbuild", "jbuild-ignore", ".merlin"]),
    named "perl" ["Makefile.PL", "Build.PL", "cpanfile", "cpanfile.snapshot", "META.json", "META.yml",
      ".perl-version"],
    named "composer" ["composer.json", ".php-version"],
    named "purescript" ["spago.dhall", "packages.dhall"],
    named "python" ["requirements.txt", ".python-version", "pyproject.toml", "Pipfile", "tox.ini",
      "setup.py", "__init__.py"],
    named "r" [".Rprofile"],
    orExtension "gemspec" (named "ruby" ["Gemfile", ".ruby-version"]),
    named "rust" ["Cargo.toml"],
    named "scala" [".scalaenv", ".sbtenv", "build.sbt"],
    named "swift" ["Package.swift"],
    orExtension "zig" (named "zig" [])]

end Detectors

end IgnoreRules
