import SuperChip.CommandLine.Options

/-!
# The help of the command line
-/

namespace SuperChip.Usage

/-- The name of the program in its messages. -/
def programName : String := "cli.py"

/-- The forms of a command line. -/
def summary : String :=
  "\n".intercalate
    ["usage: cli.py [-h] [--variant \x7bschip,chip8\x7d] [--cycles N] [--scale N]",
      "              [--strict] [--seed SEED] [--no-bell]",
      "              [--headless | --disassemble | --monitor] [--frames N]",
      "              [rom]",
      ""]

/-- What the help says about every option, with examples. -/
def details : String :=
  "\n".intercalate
    ["",
      "CHIP-8 / SUPER-CHIP interpreter",
      "",
      "positional arguments:",
      "  rom                   ROM file (raw bytes, loaded at 0x200)",
      "",
      "options:",
      "  -h, --help            show this help message and exit",
      "  --variant \x7bschip,chip8\x7d",
      "                        Instruction-set variant (default: schip)",
      "  --cycles N            Instructions per 60 Hz frame (default: 10)",
      "  --scale N             Window scale factor (default: 10)",
      "  --strict              Report anomalies (unknown opcodes, stack",
      "                        over/underflow, ...) on stderr",
      "  --seed SEED           Seed for the RND instruction",
      "  --no-bell             Do not ring the terminal bell on beep",
      "  --headless            Run without a window, print the last frame",
      "  --disassemble, -d     Print a disassembly listing and exit",
      "  --monitor, -m         Start the interactive debug monitor",
      "  --frames N            Frames to run with --headless (default: 600)",
      "",
      "Examples:",
      "  python cli.py pong.ch8",
      "  python cli.py pong.ch8 --variant chip8 --cycles 15",
      "  python cli.py pong.ch8 --headless --frames 120",
      "  python cli.py pong.ch8 --disassemble",
      "  python cli.py pong.ch8 --monitor",
      ""]

/-- The help that the user asks for. -/
def help : String := summary ++ details

/-- The help that a user gets with an error. -/
def complaint (error : UsageError) : String :=
  summary ++ s!"{programName}: error: {error.message}\n"

end SuperChip.Usage
