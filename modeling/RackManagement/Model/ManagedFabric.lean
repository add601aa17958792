import RackManagement.Model.FabricOperation
import RackManagement.Model.JobState
import RackManagement.Model.LayoutPlanner

/-!
# Aliases and controller targets

The registry's keys for the aliases of a switch, and the controller settings of a planned fabric.
-/

namespace RackManagement

open Library

namespace SwitchScope

/-- The registry's keys for aliases; the serializer may refuse one. -/
def fabricScopeKeys (encode : JobScope → Except String String) (scopes : List JobScope) :
    Except RmsError (List String) := do
  let keys ← (scopes.mapM (fun scope => encode scope.normalized)).mapError
    (fun error => .internal s!"cannot encode switch admission aliases: {error}")
  return sortDedup keys

end SwitchScope

abbrev ConfigEntries := OrderedMap (String ×ₗ String) (Option String)

def desiredConfig (fabric : PlannedFabric) : ConfigEntries :=
  let requested : ConfigEntries := .ofList (fabric.config.extraStaticConfigs.map (fun entry =>
    (toLex (entry.configFileName, entry.key), some entry.value)))
  let withTopology :=
    requested.insert (toLex (nmxCFmConfigFile, nmxCTopologyKey)) (some fabric.config.topologyType)
  withTopology.insertAll (fabric.absentStaticConfigs.toList.map (fun key => (key, none)))

def validateEntry (entry : (String ×ₗ String) × Option String) : Except String Unit := do
  (validateStaticConfigName (ofLex entry.1).1 (ofLex entry.1).2).mapError
    (fun _ => "managed configuration requires a file basename and an identifier key")
  match entry.2 with
  | some value =>
    (validateStaticConfigValue value).mapError
      (fun _ => "managed configuration requires nonempty unquoted literal values")
  | none => return ()

end RackManagement
