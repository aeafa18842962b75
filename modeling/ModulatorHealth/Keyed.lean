/-! Association lists sorted by key. Keys compare by code point, which is the order of their UTF-8
bytes, and each key occurs once. -/
namespace ModulatorHealth.Keyed

/-- The value under a key is set, and the order of the keys kept. -/
def put {α : Type} (key : String) (value : α) : List (String × α) → List (String × α)
  | [] => [(key, value)]
  | (k, v) :: rest =>
    if key < k then (key, value) :: (k, v) :: rest
    else if key = k then (key, value) :: rest
    else (k, v) :: put key value rest

/-- Of the values given for one key the last remains. -/
def ofList {α : Type} (entries : List (String × α)) : List (String × α) :=
  entries.foldl (fun sorted entry => put entry.1 entry.2 sorted) []

end ModulatorHealth.Keyed
