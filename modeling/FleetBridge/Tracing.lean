import FleetBridge.Text.Blank
import FleetBridge.Text.Case

/-!
# Log output

In which form the bridge writes its log, and where it sends its spans.
-/

namespace FleetBridge
namespace Tracing

inductive Format where
  | compact
  | pretty
  | json
  deriving DecidableEq

namespace Format

def name : Format → String
  | compact => "Compact"
  | pretty => "Pretty"
  | json => "Json"

/-- The form that a setting names, in any case; compact unless it is another one. -/
def ofSetting (setting : Option String) : Format :=
  match setting.map (fun s => Text.lower (Text.trim s)) with
  | some "json" => json
  | some "pretty" => pretty
  | _ => compact

end Format

structure Settings where
  format : Format
  /-- The collector of spans. -/
  endpoint : Option String
  deriving DecidableEq

/-- The settings that two variables make; blanks around their values do not count. -/
def Settings.of (format endpoint : Option String) : Settings :=
  { format := .ofSetting format
    endpoint := (endpoint.map Text.trim).filter (fun e => !e.isEmpty) }

end Tracing
end FleetBridge
