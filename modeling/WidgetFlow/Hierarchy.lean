import WidgetFlow.Search

/-!
# Class hierarchy

The classes of the analysed program as a front end lists them. The list may be broken: names may
repeat (the last entry counts), superclasses may be missing or form a cycle. Virtual dispatch walks
the superclass chain; subtyping also follows interfaces.
-/

namespace WidgetFlow

/-- One class or interface. -/
structure ClassInfo where
  name : String := ""
  super : String := ""
  interfaces : List String := []
  isAbstract : Bool := false
  isInterface : Bool := false
  /-- The subsignatures it declares. -/
  methods : List String := []
  deriving DecidableEq, Inhabited

/-- A concrete class can be instantiated. -/
def ClassInfo.isConcrete (c : ClassInfo) : Bool := !c.isAbstract && !c.isInterface

/-- The classes of a program and its symbolic resource ids. -/
structure Hierarchy where
  classes : List ClassInfo := []
  resources : List (String × Int) := []
  deriving DecidableEq, Inhabited

namespace Hierarchy

/-- The class with a name; of several the last. -/
def class? (h : Hierarchy) (name : String) : Option ClassInfo :=
  h.classes.foldl (fun found? c => if c.name = name then some c else found?) none

/-- The names that stand for some class. -/
def names (h : Hierarchy) : List String := distinct (h.classes.map (·.name))

/-- The id of a symbolic resource. -/
def resource? (h : Hierarchy) (name : String) : Option Int := h.resources.lookup name

/-- Walks up the superclasses from a name, in as many steps as it is given, to the first class that
declares the method. The walk ends at the empty name, at a name that it has met and at one that the
list does not have. -/
def dispatchFrom (h : Hierarchy) (subsignature : String) :
    Nat → List String → String → Option String
  | 0, _, _ => none
  | steps + 1, met, name =>
    if name = "" ∨ name ∈ met then none
    else match h.class? name with
      | none => none
      | some c =>
        if subsignature ∈ c.methods then some name
        else h.dispatchFrom subsignature steps (name :: met) c.super

/-- The class whose implementation of a method runs for a receiver of the given class. Every step of
the walk meets one name of the list more, so it ends before its steps are used up. -/
def dispatch? (h : Hierarchy) (subsignature className : String) : Option String :=
  h.dispatchFrom subsignature (h.classes.length + 1) [] className

/-- What a class extends or implements directly. -/
def parents (h : Hierarchy) (name : String) : List String :=
  if name = "" then []
  else match h.class? name with
    | none => []
    | some c => c.super :: c.interfaces

/-- The number of links between names, which bounds the names that can be met by following them. -/
def linkCount (h : Hierarchy) : Nat :=
  h.classes.foldr (fun c n => c.interfaces.length + 1 + n) 0

/-- A class is a subtype of itself and of everything it extends or implements, at any distance. -/
def isSubtype (h : Hierarchy) (sub super : String) : Bool :=
  sub == super || (expand h.parents (h.linkCount + 1) [sub] []).contains super

/-- The name stands for a concrete class. -/
def isConcrete (h : Hierarchy) (name : String) : Bool :=
  (h.class? name).any (·.isConcrete)

/-- The concrete subtypes of a class, in ascending order. -/
def concreteSubtypes (h : Hierarchy) (super : String) : List String :=
  (h.names.filter fun c => h.isConcrete c && h.isSubtype c super).mergeSort fun a b => decide (a ≤ b)

end Hierarchy

end WidgetFlow
