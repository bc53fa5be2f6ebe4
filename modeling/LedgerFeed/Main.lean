import LedgerFeed.Gateway.Launch

open LedgerFeed

def readEnvironment : IO (List (String × Text)) := do
  let found ← Settings.names.mapM fun name => do
    let small ← IO.getEnv name
    let capital ← IO.getEnv (upperText name)
    pure ((small.toList ++ capital.toList).map fun value => (name, .ofString value))
  pure found.flatten

def main : IO UInt32 := do
  match Settings.read ⟨[], ← readEnvironment⟩ with
  | .error issues =>
      for complaint in Launch.complaints issues do
        IO.eprintln complaint
      pure 1
  | .ok settings =>
      match Launch.line settings with
      | .ok line =>
          IO.println line.legible
          pure 0
      | .error fault =>
          IO.eprintln fault.message.legible
          pure 1
