import Blocklist.Text.Affix

/-!
Resources that requests can be redirected to, by the names filters use for them.
-/

namespace Blocklist

/-- The name of a resource that is not known. -/
structure UnknownResource where
  name : String
  deriving DecidableEq, Repr

/-- The wording of the failure. -/
def UnknownResource.message (failure : UnknownResource) : String :=
  s!"unknown redirect resource `{failure.name}`"

namespace Resource

/-- Every file with the names that stand for it. -/
def files : List (String × List String) :=
  [("noop.js", ["noopjs", "noop.js"]),
    ("noop.css", ["noopcss", "noop.css"]),
    ("noop.html", ["noopframe", "noop.html"]),
    ("noop.txt", ["nooptext", "noop.txt"]),
    ("noop.json", ["noopjson", "noop.json"]),
    ("noop-0.1s.mp3", ["noopmp3-0.1s", "noop-0.1s.mp3"]),
    ("noop-0.5s.mp3", ["noopmp3-0.5s", "noop-0.5s.mp3"]),
    ("noop-1s.mp4", ["noopmp4-1s", "noop-1s.mp4"]),
    ("noop-vast2.xml", ["noopvast-2.0", "noop-vast2.xml"]),
    ("noop-vast3.xml", ["noopvast-3.0", "noop-vast3.xml"]),
    ("noop-vast4.xml", ["noopvast-4.0", "noop-vast4.xml"]),
    ("noop-vmap1.xml", ["noopvmap-1.0", "noop-vmap1.xml"]),
    ("1x1-transparent.gif", ["1x1-transparent.gif", "1x1.gif"]),
    ("2x2-transparent.png", ["2x2-transparent.png", "2x2.png"]),
    ("3x2-transparent.png", ["3x2-transparent.png", "3x2.png"]),
    ("32x32-transparent.png", ["32x32-transparent.png", "32x32.png"]),
    ("click2load.html", ["click2load.html"]),
    ("empty", ["empty"]),
    ("google-analytics.js",
      ["google-analytics", "google-analytics_analytics.js", "google-analytics.com/analytics.js"]),
    ("google-analytics-ga.js",
      ["google-analytics-ga", "google-analytics_ga.js", "google-analytics.com/ga.js"]),
    ("googlesyndication-adsbygoogle.js",
      ["googlesyndication-adsbygoogle", "googlesyndication_adsbygoogle.js",
        "googlesyndication.com/adsbygoogle.js"]),
    ("googletagservices-gpt.js",
      ["googletagservices-gpt", "googletagservices_gpt.js", "googletagservices.com/gpt.js"]),
    ("googletagmanager-gtm.js",
      ["googletagmanager-gtm", "googletagmanager_gtm.js", "googletagmanager.com/gtm.js"]),
    ("scorecardresearch-beacon.js",
      ["scorecardresearch-beacon", "scorecardresearch_beacon.js"]),
    ("prevent-fab-3.2.0.js", ["prevent-fab-3.2.0", "nofab.js", "fuckadblock.js-3.2.0"]),
    ("prevent-popads-net.js", ["prevent-popads-net", "popads.net.js", "popads.js"]),
    ("noeval.js", ["noeval", "noeval.js", "silent-noeval.js"]),
    ("prebid-ads.js", ["prebid-ads", "prebid-ads.js"])]

/-- The name in the value of a modifier; a priority may follow it after a colon. -/
def nameOf (value : String) : String :=
  String.ofList (Text.trim (value.toList.takeWhile (· != ':')))

/-- The file that the value of a modifier stands for. -/
def resolve (value : String) : Except UnknownResource String :=
  let name := nameOf value
  match files.find? fun (_, names) => names.contains name with
  | some (file, _) => .ok file
  | none => .error ⟨name⟩

/-- The path of a file below a directory. -/
def path (directory file : String) : String :=
  directory ++ "/" ++ String.ofList (file.toList.dropWhile (· == '/'))

end Resource

end Blocklist
