/-
Paths of a file system with slashes: where a path leads, seen from the directory that it
starts in.

Empty components and single dots stay where they are, and two dots go up. A path that goes
up further than it went down leaves the directory it started in.
-/

import Mathlib.Data.List.Basic
import Mathlib.Data.List.Infix

namespace Algotradify.Posix

/-- A place in its shortest form: above the start by `ups` directories, then down by names. -/
structure Place where
  rooted : Bool
  ups : Nat
  names : List (List Char)
deriving DecidableEq

def dot : List Char := ['.']

def dots : List Char := ['.', '.']

def IsName (component : List Char) : Prop :=
  component ≠ [] ∧ component ≠ dot ∧ component ≠ dots

namespace Place

def parent (place : Place) : Place :=
  if place.names = [] then
    if place.rooted then place else { place with ups := place.ups + 1 }
  else { place with names := place.names.dropLast }

def enter (place : Place) (component : List Char) : Place :=
  if component = [] ∨ component = dot then place
  else if component = dots then place.parent
  else { place with names := place.names ++ [component] }

def components (place : Place) : List (List Char) :=
  List.replicate place.ups dots ++ place.names

def text (place : Place) : String :=
  String.ofList
    (if place.rooted then '/' :: List.intercalate ['/'] place.components
      else if place.components = [] then dot
      else List.intercalate ['/'] place.components)

def Under (directory place : Place) : Prop :=
  (directory.rooted = true ∧ directory.names = []) ∨
    (directory.rooted = place.rooted ∧
      ((directory.ups = place.ups ∧ directory.names <+: place.names) ∨
        (place.ups < directory.ups ∧ directory.names = [])))

instance (directory place : Place) : Decidable (Under directory place) := by
  unfold Under
  infer_instance

theorem enter_name {component : List Char} (name : IsName component) (place : Place) :
    place.enter component = { place with names := place.names ++ [component] } := by
  unfold enter
  rw [if_neg (not_or.mpr ⟨name.1, name.2.1⟩), if_neg name.2.2]

end Place

def componentsOf (path : String) : List (List Char) :=
  path.toList.splitOn '/'

def place (path : String) : Place :=
  (componentsOf path).foldl Place.enter ⟨path.toList.head? = some '/', 0, []⟩

end Algotradify.Posix
