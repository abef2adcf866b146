import EventTracking.Fault

/-!
This module contains the names that the package offers at its top and what stands behind each: a member
of one of its parts, or a value of its own.
-/

namespace EventTracking.Directory

inductive Entry where
  | member (part name : String)
  | value (v : Value)

def version : String := "0.1.0"

def versionName : String := "__version__"

def listName : String := "__all__"

def package : String := "trackercore"

def core : String := "trackercore.core"

def registry : String := "trackercore.contexts.registry"

def plugins : String := "trackercore.contexts.plugins"

def primitives : String := "trackercore.contexts.primitives"

def rules : String := "trackercore.contexts.rules"

def payload : String := "trackercore.payload"

def members : List (String × String) :=
  [("TrackerCore", core), ("tracker_core", core), ("global_contexts", registry),
    ("plugin_contexts", plugins), ("resolve_dynamic_context", primitives),
    ("get_schema_parts", rules), ("get_rule_parts", rules), ("validate_vendor", rules),
    ("validate_vendor_parts", rules), ("is_valid_rule", rules), ("is_valid_rule_set_arg", rules),
    ("is_rule_set", rules), ("match_schema_against_rule", rules),
    ("match_schema_against_rule_set", rules), ("payload_builder", payload),
    ("payload_json_processor", payload)]

def names : List String := members.map (·.1) ++ [versionName]

def find (name : String) : Except Fault Entry :=
  if name = versionName then .ok (.value (.str version))
  else if name = listName then .ok (.value (.ofTexts names))
  else if name = "__name__" || name = "__package__" then .ok (.value (.str package))
  else
    match members.lookup name with
    | some part => .ok (.member part name)
    | none => .error (.noAttribute name)

end EventTracking.Directory
