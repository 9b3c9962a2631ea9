import WebPilot.Environment.Basic

/-!
# Finding a browser

The operator's choice comes first, then the places where the platform keeps browsers, then the
commands that browsers go by.
-/

namespace WebPilot

set_option autoImplicit false

namespace Browser

/-- Where a platform keeps browsers. -/
def platformPaths (platform : String) : List String :=
  if platform = "darwin" then
    ["/Applications/Google Chrome.app/Contents/MacOS/Google Chrome",
      "/Applications/Chromium.app/Contents/MacOS/Chromium"]
  else if platform = "win32" then
    ["C:\\Program Files\\Google\\Chrome\\Application\\chrome.exe",
      "C:\\Program Files (x86)\\Google\\Chrome\\Application\\chrome.exe"]
  else []

/-- The commands that browsers go by. -/
def commandNames : List String :=
  ["google-chrome", "google-chrome-stable", "chromium", "chromium-browser", "chrome"]

/-- The settings by which the operator chooses a browser. -/
def choiceNames : List String :=
  ["MOCK_CHROME_PATH", "CHROME_PATH"]

/-- A computer, as far as looking for a browser goes. -/
structure Machine where
  env : Environment
  platform : String
  /-- Whether a path leads to a file. -/
  isFile : String → Bool
  /-- The path of a command. -/
  command? : String → Option String

/-- Finds a browser. -/
def find? (m : Machine) : Option String :=
  (choiceNames.findSome? m.env.nonempty?).or <|
    ((platformPaths m.platform).find? m.isFile).or <|
      commandNames.findSome? m.command?

end Browser

end WebPilot
