import WebAppTargets.Setting

namespace WebAppTargets

structure Snapshot where
  properties : Table String
  sticky : NameSet
  deriving DecidableEq

namespace Snapshot

def empty : Snapshot := ⟨.empty, .empty⟩

def add (s : Snapshot) (e : AppSetting) : Snapshot :=
  ⟨s.properties.insert e.name e.value, if e.isSticky then s.sticky.insert e.name () else s.sticky⟩

def ofEntries (l : List AppSetting) : Snapshot := l.foldl add empty

def demoted (desired : List AppSetting) : List String :=
  (desired.filter fun s => !s.isSticky).map AppSetting.name

def promoted (desired : List AppSetting) : List String :=
  (desired.filter AppSetting.isSticky).map AppSetting.name

def merge (current : Snapshot) (desired : List AppSetting) : Snapshot where
  properties := desired.foldl (fun t s => t.insert s.name s.value) current.properties
  sticky :=
    (promoted desired).foldl (fun t n => t.insert n ())
      (current.sticky.filter fun n _ => n ∉ demoted desired)

end Snapshot

/-- A desired connection string replaces value and kind of the one under its name. -/
def mergeConnections (current : Table ConnectionString) (desired : List ConnectionSetting) :
    Table ConnectionString :=
  desired.foldl (fun t s => t.insert s.name ⟨s.value, s.kind⟩) current

end WebAppTargets
