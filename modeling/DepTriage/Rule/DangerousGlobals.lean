import DepTriage.Finding

/-! # Dangerous globals

Which global names give code a capability that a package rarely needs. -/

namespace DepTriage

namespace Capability

def networkNames : List String :=
  ["fetch", "XMLHttpRequest", "ActiveXObject", "WebSocket", "EventSource", "navigator", "Image",
    "Script"]

def domNames : List String :=
  ["document", "window", "addEventListener"]

/-- Properties of the global object that hold event handlers. -/
def handlerNames : List String :=
  ["onsearch", "onappinstalled", "onbeforeinstallprompt", "onbeforexrselect", "onabort",
    "onbeforeinput", "onbeforematch", "onbeforetoggle", "onblur", "oncancel", "oncanplay",
    "oncanplaythrough", "onchange", "onclick", "onclose", "oncommand",
    "oncontentvisibilityautostatechange", "oncontextlost", "oncontextmenu", "oncontextrestored",
    "oncuechange", "ondblclick", "ondrag", "ondragend", "ondragenter", "ondragleave",
    "ondragover", "ondragstart", "ondrop", "ondurationchange", "onemptied", "onended", "onerror",
    "onfocus", "onformdata", "oninput", "oninvalid", "onkeydown", "onkeypress", "onkeyup",
    "onload", "onloadeddata", "onloadedmetadata", "onloadstart", "onmousedown", "onmouseenter",
    "onmouseleave", "onmousemove", "onmouseout", "onmouseover", "onmouseup", "onmousewheel",
    "onpause", "onplay", "onplaying", "onprogress", "onratechange", "onreset", "onresize",
    "onscroll", "onscrollend", "onsecuritypolicyviolation", "onseeked", "onseeking", "onselect",
    "onslotchange", "onstalled", "onsubmit", "onsuspend", "ontimeupdate", "ontoggle",
    "onvolumechange", "onwaiting", "onwebkitanimationend", "onwebkitanimationiteration",
    "onwebkitanimationstart", "onwebkittransitionend", "onwheel", "onauxclick",
    "ongotpointercapture", "onlostpointercapture", "onpointerdown", "onpointermove",
    "onpointerrawupdate", "onpointerup", "onpointercancel", "onpointerover", "onpointerout",
    "onpointerenter", "onpointerleave", "onselectstart", "onselectionchange", "onanimationend",
    "onanimationiteration", "onanimationstart", "ontransitionrun", "ontransitionstart",
    "ontransitionend", "ontransitioncancel", "onafterprint", "onbeforeprint", "onbeforeunload",
    "onhashchange", "onlanguagechange", "onmessage", "onmessageerror", "onoffline", "ononline",
    "onpagehide", "onpageshow", "onpopstate", "onrejectionhandled", "onstorage",
    "onunhandledrejection", "onunload", "ondevicemotion", "ondeviceorientation",
    "ondeviceorientationabsolute", "onpageswap", "onpagereveal", "onscrollsnapchange",
    "onscrollsnapchanging"]

def storageNames : List String :=
  ["localStorage", "sessionStorage", "IndexedDB", "cookies"]

/-- The capability that comes with a global. An event handler is harmless unless it is written. -/
def ofGlobal? (name : String) (access : Access) : Option Capability :=
  if networkNames.contains name then some network
  else if domNames.contains name || (access == .readWrite && handlerNames.contains name) then
    some dom
  else if name == "eval" then some codeExecution
  else if storageNames.contains name then some localStorage
  else if name == "chrome" then some extensionApi
  else none

end Capability

namespace FlaggedGlobal

/-- The flagged globals of a usage, in its order. -/
def ofUsage (usage : GlobalUsage) : List FlaggedGlobal :=
  usage.toList.filterMap fun (name, access) =>
    (Capability.ofGlobal? name access).map fun capability => ⟨name, access, capability⟩

/-- The line of evidence for a flagged global. -/
def evidence (g : FlaggedGlobal) : String :=
  let verb := match g.access with
    | .read => "access"
    | .readWrite => "read-write"
  s!"- {verb} {g.name} ({g.capability.label}): {g.capability.description}"

end FlaggedGlobal

/-- Fires when dangerous globals are used. -/
def Rule.checkGlobals (usage : GlobalUsage) : Option Finding :=
  match FlaggedGlobal.ofUsage usage with
  | [] => none
  | flagged => some {
      rule := .dangerousGlobals
      severity := .high
      description := "uses dangerous global variables"
      evidence := "\n".intercalate (flagged.map FlaggedGlobal.evidence)
      flagged }

end DepTriage
