import Trivariate.Report

open Trivariate

def main (args : List String) : IO UInt32 := do
  match CommandLine.parse? args with
  | none =>
    IO.eprintln "usage: EXPRESSION [-n NOTATION] [-d VARIABLE]... [-a X Y Z [--gradient] [--hessian]]"
    return 2
  | some c =>
    match Report.render id c with
    | .ok text =>
      IO.println text
      return 0
    | .error e =>
      IO.eprintln ("Error: " ++ e.message)
      return 1
