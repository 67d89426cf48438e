import EprBench.Settings.Basic

/-! Settings with which the instruments are delivered: the line to each of them and what is particular
to it. -/
namespace EprBench.Factory

/-- An instrument as it is delivered: the kind of line to it, the properties of each kind of line, and what
is particular to it, all of them as they stand in a settings file. -/
structure Delivery where
  name : String
  line : String := "rs232"
  timeout : String := "3000"
  board : String := "0"
  gpib : String := "12"
  serial : String := "ASRL/dev/ttyUSB0::INSTR"
  baud : String := "9600"
  data : String := "8"
  start : String := "1"
  stop : String := "one"
  parity : String := "none"
  readEnd : String := ""
  writeEnd : String := ""
  flow : String := "0"
  modbus : String := ""
  slave : String := ""
  network : String := ""
  specific : Entries := []

def settings (d : Delivery) : Settings where
  defaults := [("name", d.name), ("type", d.line), ("timeout", d.timeout)]
  sections := [("GPIB", [("board", d.board), ("address", d.gpib)]),
    ("SERIAL", [("address", d.serial), ("baudrate", d.baud), ("databits", d.data), ("startbits", d.start),
      ("stopbits", d.stop), ("parity", d.parity), ("read_termination", d.readEnd), ("write_termination", d.writeEnd),
      ("flow_control", d.flow)]),
    ("MODBUS", [("mode", d.modbus), ("slave_address", d.slave)]),
    ("ETHERNET", [("address", d.network)]),
    ("SPECIFIC", d.specific)]

def apart (name : String) (specific : Entries) : Delivery :=
  { name, specific, line := "", timeout := "", board := "", gpib := "", serial := "", baud := "", data := "", start := "",
    stop := "", parity := "", flow := "" }

def agilent53131 : Settings := settings {
  name := "Agilent 53131a Frequency Counter", line := "gpib", timeout := "1000", gpib := "3", stop := "1",
  readEnd := "r", writeEnd := "rn" }

def agilent53181 : Settings := settings {
  name := "Agilent 53181a Frequency Counter", line := "gpib", timeout := "1000", gpib := "3", stop := "1",
  readEnd := "r", writeEnd := "rn" }

def agilent5343 : Settings := settings {
  name := "Agilent 5343a Frequency Counter", line := "gpib", timeout := "13", gpib := "2", stop := "1" }

def bh15 : Settings := settings {
  name := "BH15 Magnetic Field Controller", line := "gpib", gpib := "1", serial := "ASRL/dev/ttyACM0::INSTR",
  baud := "19200", stop := "two", readEnd := "r" }

def cpwPlus150 : Settings := settings {
  name := "CPWplus 150 Balances", readEnd := "n", writeEnd := "rn", network := "TCPIP::192.168.2.20::INSTR" }

def lm510 : Settings := settings {
  name := "Cryomagnetics LM510", line := "ethernet", baud := "115200", readEnd := "rn", writeEnd := "n",
  network := "TCPIP::192.168.0.187::4266::SOCKET", specific := [("hrc_second_channel", "True")] }

def cpa1110 : Settings := settings {
  name := "Cryomech CPA1110 Cryogenic Refrigerator", line := "rs485", timeout := "200", gpib := "16",
  serial := "/dev/ttyS1", baud := "115200", flow := "", modbus := "rtu", slave := "17",
  network := "TCPIP::192.168.2.20::INSTR" }

def ecc15k : Settings := settings {
  name := "ECC15K Synthetizer", timeout := "1000", serial := "ASRL/dev/ttyACM0::INSTR", readEnd := "n",
  writeEnd := "n" }

def er031m : Settings := settings {
  name := "ER031M Magnetic Field Controller with arduino emulated keyboard", timeout := "5000",
  serial := "ASRL/dev/ttyACM0::INSTR", baud := "19200", stop := "two", readEnd := "r", writeEnd := "r" }

def itc503 : Settings := settings {
  name := "Oxford Instruments ITC 503", readEnd := "r", writeEnd := "r", specific := [("channels", "3")] }

def itcFc : Settings := settings {
  name := "ITC Magnetic Field Controller", timeout := "5000", baud := "115200", readEnd := "nr", writeEnd := "nr" }

def ivg : Settings := settings {
  name := "IVG-1/1 Moisture Meter", line := "rs485", timeout := "200", gpib := "3", serial := "COM6", baud := "19200",
  stop := "two", flow := "", modbus := "rtu", slave := "3", network := "TCPIP::192.168.2.20::INSTR" }

def keysight2000 : Settings := settings {
  name := "Keysight 2012A", line := "ethernet", timeout := "10000", serial := "ASRL/dev/ttyUSB1::INSTR",
  readEnd := "n", writeEnd := "n", network := "TCPIP::192.168.2.22::INSTR", specific := [("analog_channels", "2"),
    ("timebase_max", "50"), ("timebase_min", "0.000000005"), ("sensitivity_min", "0.001"), ("sensitivity_max", "5"),
    ("wave_gen_freq_max", "5000000"), ("wave_gen_freq_min", "0.1")] }

def keysight3000 : Settings := settings {
  name := "Keysight 3034T", line := "ethernet", timeout := "10000", serial := "ASRL/dev/ttyUSB1::INSTR",
  readEnd := "n", writeEnd := "n", network := "TCPIP::172.16.16.21::INSTR", specific := [("analog_channels", "4"),
    ("timebase_max", "50"), ("timebase_min", "0.0000000005"), ("sensitivity_min", "0.001"), ("sensitivity_max", "5"),
    ("wave_gen_freq_max", "5000000"), ("wave_gen_freq_min", "0.1")] }

def keysight4000 : Settings := settings {
  name := "Keysight 4000 X-series", line := "ethernet", timeout := "10000", serial := "ASRL/dev/ttyUSB1::INSTR",
  readEnd := "n", writeEnd := "n", network := "TCPIP::192.168.2.20::INSTR", specific := [("analog_channels", "4"),
    ("timebase_max", "50"), ("timebase_min", "0.0000000005"), ("sensitivity_min", "0.001"), ("sensitivity_max", "5"),
    ("wave_gen_freq_max", "5000000"), ("wave_gen_freq_min", "0.1")] }

def lakeshore325 : Settings := settings {
  name := "Lakeshore 325", data := "7", parity := "odd", writeEnd := "rn", specific := [("loop", "1")] }

def lakeshore332 : Settings := settings {
  name := "Lakeshore 332", data := "7", parity := "odd", writeEnd := "rn", specific := [("loop", "1")] }

def lakeshore335 : Settings := settings {
  name := "Lakeshore 335", line := "gpib", baud := "57600", data := "7", parity := "odd", readEnd := "rn",
  writeEnd := "rn", specific := [("loop", "1")] }

def lakeshore336 : Settings := settings {
  name := "Lakeshore 336", baud := "57600", data := "7", parity := "odd", writeEnd := "rn",
  specific := [("loop", "1")] }

def lakeshore340 : Settings := settings {
  name := "Lakeshore 340", serial := "COM4", baud := "19200", writeEnd := "rn", specific := [("loop", "1")] }

def lakeshore455 : Settings := settings {
  name := "Lakeshore 455 DSP Gaussmeter", data := "7", parity := "odd", readEnd := "rn", writeEnd := "rn" }

def pt2025 : Settings := settings {
  name := "Metrolab PT2025 NMR Gaussmeter", serial := "ASRL/dev/ttyACM0::INSTR", baud := "2400", readEnd := "rn",
  writeEnd := "rn" }

def mikranBridge : Settings := settings {
  apart "Mikran X-band MW bridge" [("udp_ip", "172.16.16.20"), ("udp_port", "8891"), ("tcp_ip", "172.16.16.20"),
    ("tcp_port", "8890"), ("synthesizer_min", "9000"), ("synthesizer_max", "10000")] with line := "tcp-ip" }

def mikranBridge2 : Settings := settings {
  apart "Mikran X-band MW bridge v2" [("udp_ip", "192.168.2.19"), ("udp_port", "8891"), ("tcp_ip", "192.168.2.19"),
    ("tcp_port", "8890"), ("synthesizer_min", "9000"), ("synthesizer_max", "10000")] with line := "tcp-ip" }

def owenMk110 : Settings := settings {
  name := "Owen 110-220.4DN.4R Discrete input-output module", line := "rs485", timeout := "500", serial := "COM5",
  baud := "19200", flow := "", modbus := "rtu", slave := "17", network := "TCPIP::192.168.2.20::INSTR" }

def pulseBlaster : Settings := settings (apart "PB ESR 500 PRO" [("clock", "500.0"), ("timebase", "2"),
    ("default_rep_rate", "2 Hz"), ("auto_defense", "True"), ("max_pulse_length", "1900"), ("min_pulse_length", "10"),
    ("minimal_distance", "40"), ("switch_delay", "170"), ("amp_delay", "-130"), ("protect_delay", "-30"),
    ("switch_phase_delay", "30"), ("phase_delay", "0"), ("rect_awg_switch_delay", "170"), ("rect_awg_delay", "-130"),
    ("protect_awg_delay", "-50"), ("ch0", "TRIGGER"), ("ch1", "AMP_ON"), ("ch2", "LNA_PROTECT"), ("ch3", "MW"),
    ("ch4", "-X"), ("ch5", "+Y"), ("ch6", "TRIGGER_AWG"), ("ch7", "AWG"), ("ch8", "LASER")])

def rigolDp800 : Settings := settings {
  name := "Rigol DP832 Power Supply", readEnd := "n", writeEnd := "n", network := "TCPIP::192.168.2.20::INSTR",
  specific := [("channels", "3"), ("ch1_voltage_max", "30"), ("ch2_voltage_max", "30"), ("ch3_voltage_max", "5"),
    ("ch1_current_max", "3"), ("ch2_current_max", "3"), ("ch3_current_max", "3")] }

def rodos : Settings := settings {
  name := "Rodos 10N Solid-State Relay", line := "ethernet", timeout := "1000", readEnd := "r", writeEnd := "n",
  network := "192.168.2.25" }

def sr810 : Settings := settings {
  name := "SR 810 Lock-in Amplifier", timeout := "1000", serial := "ASRL/dev/ttyUSB1::INSTR", readEnd := "r",
  writeEnd := "nr" }

def sr830 : Settings := settings {
  name := "SR 830 Lock-in Amplifier", line := "gpib", timeout := "1000", gpib := "7",
  serial := "ASRL/dev/ttyUSB1::INSTR", readEnd := "r", writeEnd := "nr" }

def sr850 : Settings := settings {
  name := "SR 850 Lock-in Amplifier", timeout := "1000", serial := "ASRL/dev/ttyUSB1::INSTR", readEnd := "r",
  writeEnd := "nr" }

def sr860 : Settings := settings {
  name := "SR 860 Lock-in Amplifier", line := "ethernet", timeout := "1000", readEnd := "r", writeEnd := "n",
  network := "TCPIP::192.168.2.20::INSTR" }

def sr865 : Settings := settings {
  name := "SR 865a Lock-in Amplifier", timeout := "1000", serial := "ASRL/dev/ttyUSB1::INSTR", readEnd := "r",
  writeEnd := "n", network := "TCPIP::192.168.2.20::INSTR" }

def dc205 : Settings := settings {
  name := "SR DC205 Power Supply", readEnd := "r", writeEnd := "n", network := "TCPIP::192.168.2.20::INSTR",
  specific := [("channels", "1")] }

def dg535 : Settings := settings {
  name := "SR DG535 Delay Generator", line := "gpib", gpib := "15", readEnd := "n", writeEnd := "rn",
  network := "TCPIP::192.168.2.20::INSTR" }

def ps300 : Settings := settings {
  name := "SR PC365 High Voltage Power Supply", gpib := "14", readEnd := "n", writeEnd := "n",
  network := "TCPIP::192.168.2.20::INSTR", specific := [("voltage_min", "100"), ("voltage_max", "10000"),
    ("current_max", "0.001"), ("rs232", "yes")] }

def ptc10 : Settings := settings {
  apart "SR PTC 10" [("udp_ip", "172.16.16.22"), ("udp_port", "23"), ("tcp_ip", "172.16.16.22"),
    ("tcp_port", "23")] with line := "tcp-ip", readEnd := "rn", writeEnd := "rn" }

def scm10 : Settings := settings {
  name := "Scientific Instruments SCM10", serial := "ASRL/dev/ttyS0::INSTR", readEnd := "r", writeEnd := "r",
  network := "TCPIP::192.168.0.4::9760::SOCKET" }

def m4i2211 : Settings := settings (apart "Spectrum M4I.2211-X8" [
    ("header_dir", "/home/pulseepr/Sources/AWG/Examples/python")])

def m4i4450 : Settings := settings (apart "Spectrum M4I.4450-X8" [
    ("header_dir", "/home/pulseepr/Sources/AWG/Examples/python")])

def m4i6631 : Settings := settings (apart "Spectrum M4I.6631-X8" [
    ("header_dir", "/home/pulseepr/Sources/AWG/Examples/python"), ("max_pulse_length", "1900"),
    ("min_pulse_length", "0"), ("max_freq", "400"), ("min_freq", "-400"), ("ch1_phase_shift", "1.57075")])

def tektronix3000 : Settings := settings {
  name := "Tektronix 3000 Series", line := "ethernet", timeout := "10000", serial := "ASRL/dev/ttyUSB1::INSTR",
  readEnd := "n", writeEnd := "r", network := "TCPIP::192.168.2.20::INSTR", specific := [("analog_channels", "2"),
    ("sensitivity_min", "0.001"), ("sensitivity_max", "10")] }

def tektronix4000 : Settings := settings {
  name := "Tektronix 4000 Series", line := "ethernet", timeout := "10000", serial := "ASRL/dev/ttyUSB1::INSTR",
  readEnd := "n", writeEnd := "r", network := "TCPIP::192.168.2.20::INSTR", specific := [("analog_channels", "2"),
    ("sensitivity_min", "0.001"), ("sensitivity_max", "5")] }

def termodat11 : Settings := settings {
  name := "Termodat 11M6 Temperature Controller", line := "rs485", timeout := "200", serial := "COM5",
  baud := "19200", flow := "", modbus := "ascii", slave := "11", network := "TCPIP::192.168.2.20::INSTR",
  specific := [("channels", "4")] }

def termodat13 : Settings := settings {
  name := "Termodat 13KX3 Temperature Controller", line := "rs485", timeout := "200", serial := "COM5",
  baud := "19200", flow := "", modbus := "ascii", slave := "1", network := "TCPIP::192.168.2.20::INSTR",
  specific := [("channels", "2")] }

def program : Settings where
  defaults := [("open_dir", "/home/anatoly/Documents"), ("script_dir", "/home/anatoly/Atomize/atomize/tests")]

end EprBench.Factory
