import MetricsScript.Host.Machine

/-!
# A standard machine

The machine that programs are started on unless another is set up: the usual directories,
devices and programs.
-/

namespace MetricsScript
namespace Host

/-- The directories of a standard machine. -/
def standardDirectories : List Location :=
  [["bin"], ["dev"], ["etc"], ["home"], ["root"], ["sbin"], ["tmp"], ["usr"], ["usr", "bin"],
    ["usr", "local"], ["usr", "local", "bin"], ["usr", "local", "sbin"], ["usr", "sbin"],
    ["var"]]

/-- The devices of a standard machine. -/
def standardDevices : List (Location × Device) :=
  [(["dev", "null"], .null), (["dev", "zero"], .zero), (["dev", "full"], .full),
    (["dev", "stdout"], .output), (["dev", "stderr"], .errors)]

/-- The programs of a standard machine.  They are kept without their bytes. -/
def standardPrograms : List (String × Utility) :=
  [("sh", .shell), ("printf", .printf), ("echo", .echo), ("test", .test), ("cat", .cat),
    ("head", .head), ("tr", .tr), ("sleep", .sleep), ("seq", .sequence), ("yes", .repetition),
    ("true", .succeed), ("false", .fail)]

/-- The files of a standard machine. -/
def Files.standard (working : Location) : Files where
  nodes :=
    standardDirectories.map (fun location => (location, .directory)) ++
      standardDevices.map (fun entry => (entry.1, .device entry.2)) ++
      standardPrograms.flatMap fun entry =>
        [(["usr", "bin", entry.1], .executable entry.2),
          (["bin", entry.1], .executable entry.2)]
  working := working

/-- A standard machine, which has no tool. -/
def Machine.standard : Machine where
  files := .standard []
  environment := [("PATH", standardPath), ("HOME", "/root")]
  tool := []

end Host
end MetricsScript
